import DecompilerBridge.Number.Basic

/-!
# Shortest decimal text

Decimal text of numbers: the fewest digits that read back as the same number, the nearest such
digits, laid out positionally or with an exponent as each output asks.
-/

set_option autoImplicit false

namespace DecompilerBridge.Number

/-- The least `p` at or above the start with `n < d · 10 ^ p`, looked for upwards. -/
def magnitudeUp (n d : Nat) : Nat → Int → Int
  | 0, p => p
  | fuel + 1, p =>
    let below :=
      if 0 ≤ p then decide (n < d * Nat.pow 10 p.toNat)
      else decide (n * Nat.pow 10 (-p).toNat < d)
    if below then p else magnitudeUp n d fuel (p + 1)

/-- The `p` with `10 ^ (p - 1) ≤ n / d < 10 ^ p`. The start of the search is the binary magnitude
times a lower bound of the logarithm, less two. -/
def magnitude (n d : Nat) : Int :=
  let bits : Int := (Nat.log2 n : Int) - Nat.log2 d - 1
  magnitudeUp n d 8 (Int.fdiv (bits * 30103) 100000 - 2)

/-- The digits of `n / d` on the grid of multiples of `10 ^ k`, rounded down. -/
def onGrid (n d : Nat) (k : Int) : Nat :=
  if 0 ≤ k then n / (d * Nat.pow 10 k.toNat) else n * Nat.pow 10 (-k).toNat / d

/-- Whether `n / d` lies strictly below the middle between `c` and `c + 1` on the grid of `10 ^ k`.
-/
def belowMiddle (n d : Nat) (k : Int) (c : Nat) : Bool :=
  if 0 ≤ k then decide (2 * n < (2 * c + 1) * (d * Nat.pow 10 k.toNat))
  else decide (2 * (n * Nat.pow 10 (-k).toNat) < (2 * c + 1) * d)

/-- Whether `n / d` is the middle between `c` and `c + 1` on the grid of `10 ^ k`. -/
def atMiddle (n d : Nat) (k : Int) (c : Nat) : Bool :=
  if 0 ≤ k then decide (2 * n = (2 * c + 1) * (d * Nat.pow 10 k.toNat))
  else decide (2 * (n * Nat.pow 10 (-k).toNat) = (2 * c + 1) * d)

/-- Look for the first grid on which a neighbour of the value reads back as the value, starting with
the grid `10 ^ k` and going to finer ones. Of two such neighbours the nearer is taken, and the even
one if they are equally near. -/
def searchGrid (m : Nat) (e : Int) (n d : Nat) : Nat → Int → Nat × Int
  | 0, k => (onGrid n d k, k)
  | fuel + 1, k =>
    let c := onGrid n d k
    let hits (x : Nat) : Bool := decide (0 < x) && decide (ofDecimal false x k = .finite false m e)
    match hits c, hits (c + 1) with
    | true, true =>
      if belowMiddle n d k c || (atMiddle n d k c && c % 2 == 0) then (c, k) else (c + 1, k)
    | true, false => (c, k)
    | false, true => (c + 1, k)
    | false, false => searchGrid m e n d fuel (k - 1)

/-- Remove trailing zeros from `digits · 10 ^ k`. -/
def stripZeros : Nat → Nat → Int → Nat × Int
  | 0, digits, k => (digits, k)
  | fuel + 1, digits, k =>
    if digits % 10 = 0 && digits ≠ 0 then stripZeros fuel (digits / 10) (k + 1) else (digits, k)

/-- The shortest decimal `digits · 10 ^ k` that reads back as `m · 2 ^ e`, for positive `m`. -/
def shortest (m : Nat) (e : Int) : Nat × Int :=
  let r := ratio m e
  let found := searchGrid m e r.1 r.2 20 (magnitude r.1 r.2 - 1)
  stripZeros 20 found.1 found.2

/-- How an output lays out the digits of a number. -/
structure DecimalLayout where
  /-- The greatest place of the point, counted from the first digit, that is written positionally.
  -/
  greatestPlace : Int
  /-- The least such place. -/
  leastPlace : Int
  /-- Whether a whole number is written with a point and a zero. -/
  pointZero : Bool
  /-- The least number of digits of an exponent. -/
  exponentWidth : Nat
  /-- Whether a negative zero keeps its sign. -/
  signedZero : Bool

/-- Script texts: positional from `1e-6` up to `1e21`, whole numbers without a point. -/
def DecimalLayout.script : DecimalLayout := ⟨21, -5, false, 1, false⟩

/-- Diagnostics of configuration files: positional from `1e-5` up to `1e16`, always with a point. -/
def DecimalLayout.diagnostic : DecimalLayout := ⟨16, -4, true, 1, true⟩

/-- Digits padded with zeros on the left to a width. -/
def padded (width : Nat) (digits : List Char) : List Char :=
  List.replicate (width - digits.length) '0' ++ digits

/-- Lay out the digits `ds` of a positive number whose point stands after `place` of them. -/
def DecimalLayout.positive (l : DecimalLayout) (ds : List Char) (place : Int) : List Char :=
  if l.leastPlace ≤ place && place ≤ l.greatestPlace then
    if place ≤ 0 then '0' :: '.' :: (List.replicate (-place).toNat '0' ++ ds)
    else if (ds.length : Int) ≤ place then
      ds ++ List.replicate (place.toNat - ds.length) '0' ++ (if l.pointZero then ['.', '0'] else [])
    else ds.take place.toNat ++ '.' :: ds.drop place.toNat
  else
    let exponent := place - 1
    let mark := if exponent < 0 then '-' else '+'
    let body := match ds with
      | [] => []
      | [d] => [d]
      | d :: rest => d :: '.' :: rest
    body ++ 'e' :: mark :: padded l.exponentWidth (Nat.toDigits 10 exponent.natAbs)

/-- The text of a number in a layout. -/
def text (l : DecimalLayout) : Number → String
  | .nan => "NaN"
  | .infinite negative => if negative then "-Infinity" else "Infinity"
  | .finite negative m e =>
    if m = 0 then
      (if negative && l.signedZero then "-" else "") ++ (if l.pointZero then "0.0" else "0")
    else
      let s := shortest m e
      let ds := Nat.toDigits 10 s.1
      String.ofList ((if negative then ['-'] else []) ++ l.positive ds (ds.length + s.2))

end DecompilerBridge.Number
