import DecompilerBridge.Number.Shortest
import DecompilerBridge.Text.Units

/-!
# Arithmetic of numbers

Sums, order, rounding to whole numbers, and the reading of numbers from script texts.

Every sum is formed exactly and rounded once. A text is read as the number nearest to the decimal it
spells.
-/

set_option autoImplicit false

namespace DecompilerBridge.Number

open Text (Units)

def zero : Number := .finite false 0 minExponent

def negativeZero : Number := .finite true 0 minExponent

/-- The number nearest to `± m · 2 ^ e`. A mantissa that is too long only by zeros is cut without
rounding. -/
def ofScaled (negative : Bool) (m : Nat) (e : Int) : Number :=
  let excess := Nat.log2 m - mantissaBits
  let short := Nat.shiftRight m excess
  let exponent := e + excess
  if m ≠ 0 && Nat.shiftLeft short excess = m && minExponent ≤ exponent && exponent ≤ 0 then
    lengthened negative short exponent
  else
    let r := ratio m e
    ofRatio negative r.1 r.2

/-- An integer with a sign. -/
def signed (negative : Bool) (n : Nat) : Int := if negative then -(n : Int) else n

/-- `± m · 2 ^ e` in units of `2 ^ low`, for a `low` that is not above `e`. -/
def inUnits (low : Int) (negative : Bool) (m : Nat) (e : Int) : Int :=
  signed negative (Nat.shiftLeft m (e - low).toNat)

/-- The sum of two finite numbers. A zero is negative only if both numbers are. -/
def addFinite (s : Bool) (m : Nat) (e : Int) (t : Bool) (n : Nat) (f : Int) : Number :=
  let low := if e ≤ f then e else f
  let sum := inUnits low s m e + inUnits low t n f
  if sum = 0 then .finite (s && t) 0 minExponent
  else ofScaled (decide (sum < 0)) sum.natAbs low

def add : Number → Number → Number
  | .nan, _ => .nan
  | _, .nan => .nan
  | .infinite s, .infinite t => if s = t then .infinite s else .nan
  | .infinite s, _ => .infinite s
  | _, .infinite t => .infinite t
  | .finite s m e, .finite t n f => addFinite s m e t n f

def negate : Number → Number
  | .finite s m e => .finite (!s) m e
  | .infinite s => .infinite (!s)
  | .nan => .nan

def isNegative : Number → Bool
  | .finite s m _ => s && m != 0
  | .infinite s => s
  | .nan => false

/-- Whether a number is less than another. There is no answer if one of them is `nan`. -/
def less? : Number → Number → Option Bool
  | .nan, _ => none
  | _, .nan => none
  | .infinite s, .infinite t => some (s && !t)
  | .infinite s, _ => some s
  | _, .infinite t => some !t
  | .finite s m e, .finite t n f =>
    let low := if e ≤ f then e else f
    some (decide (inUnits low s m e < inUnits low t n f))

/-- Whether a number is less than an integer. There is no answer for `nan`. -/
def lessThanInt? (x : Number) (i : Int) : Option Bool :=
  match x with
  | .nan => none
  | .infinite s => some s
  | .finite s m e =>
    let r := ratio m e
    some (decide (signed s r.1 < i * r.2))

/-- Whether an integer is less than a number. There is no answer for `nan`. -/
def intLessThan? (i : Int) (x : Number) : Option Bool :=
  match x with
  | .nan => none
  | .infinite s => some !s
  | .finite s m e =>
    let r := ratio m e
    some (decide (i * r.2 < signed s r.1))

/-- A whole number with the sign of the number it was rounded from. -/
def wholeWithSign (negative : Bool) (i : Int) : Number :=
  if i = 0 && negative then negativeZero else .ofInt i

/-- Round a finite number to a whole number with a rule for numerator and denominator. -/
def roundedBy (rule : Int → Int → Int) : Number → Number
  | .finite s m e =>
    let r := ratio m e
    wholeWithSign s (rule (signed s r.1) r.2)
  | x => x

/-- The greatest whole number that is not above a number. -/
def floor : Number → Number := roundedBy Int.fdiv

/-- The least whole number that is not below a number. -/
def ceiling : Number → Number := roundedBy fun n d => -Int.fdiv (-n) d

/-- The number without its fraction. -/
def truncate : Number → Number := roundedBy Int.tdiv

/-- The nearest whole number, a half going up. -/
def nearest : Number → Number := roundedBy fun n d => Int.fdiv (2 * n + d) (2 * d)

/-- The integer part of a number, if it is finite; zero for `nan`. -/
def integerPart? : Number → Option Int
  | .finite s m e =>
    let r := ratio m e
    some (signed s (r.1 / r.2))
  | .infinite _ => none
  | .nan => some 0

/-- The number modulo two to the power of 32, after its fraction is dropped. -/
def toWord32 (x : Number) : Nat := ((x.integerPart?.getD 0) % 0x100000000).toNat

/-- The number as a signed integer of 32 bits. -/
def toSigned32 (x : Number) : Int := Int.bmod (x.integerPart?.getD 0) 0x100000000

/-! ### Numbers in texts -/

/-- The characters of units that are all below 128, or nothing. -/
def asciiChars? : Units → Option (List Char)
  | [] => some []
  | u :: r => if u.toNat < 128 then (asciiChars? r).map (Char.ofNat u.toNat :: ·) else none

/-- The value of a digit in bases up to 36. -/
def digitValue? (c : Char) : Option Nat :=
  if c.isDigit then some (c.toNat - 48)
  else if 'a' ≤ c && c ≤ 'z' then some (c.toNat - 87)
  else if 'A' ≤ c && c ≤ 'Z' then some (c.toNat - 55)
  else none

/-- The value of digits in a base, and the characters after the last of them. -/
def readDigits (base : Nat) (value : Nat) : List Char → Nat × List Char
  | [] => (value, [])
  | c :: cs =>
    match digitValue? c with
    | some d => if d < base then readDigits base (value * base + d) cs else (value, c :: cs)
    | none => (value, c :: cs)

/-- The decimal exponent beyond which a number is zero or infinite whatever its digits. -/
def widestPower : Int := 400

/-- `± digits · 10 ^ power`, where `count` digits were written. -/
def ofDigits (negative : Bool) (digits : Nat) (count : Nat) (power : Int) : Number :=
  if digits = 0 then .finite negative 0 minExponent
  else if widestPower < power + count then .infinite negative
  else if power + count < -widestPower then .finite negative 0 minExponent
  else ofDecimal negative digits power

/-- A decimal number at the start of a text, and the characters after it. -/
def readDecimal? (negative : Bool) (cs : List Char) : Option (Number × List Char) :=
  let whole := readDigits 10 0 cs
  let wholeCount := cs.length - whole.2.length
  let fraction : (Nat × List Char) × Nat := match whole.2 with
    | '.' :: rest =>
      let read := readDigits 10 whole.1 rest
      (read, rest.length - read.2.length)
    | rest => ((whole.1, rest), 0)
  if wholeCount + fraction.2 = 0 then none
  else
    let exponent : Int × List Char := match fraction.1.2 with
      | c :: rest =>
        if c = 'e' || c = 'E' then
          let sign : Bool × List Char := match rest with
            | '-' :: after => (true, after)
            | '+' :: after => (false, after)
            | after => (false, after)
          let read := readDigits 10 0 sign.2
          if read.2.length < sign.2.length then (signed sign.1 read.1, read.2) else (0, c :: rest)
        else (0, c :: rest)
      | [] => (0, [])
    some (ofDigits negative fraction.1.1 (wholeCount + fraction.2) (exponent.1 - fraction.2),
      exponent.2)

/-- The longest number at the start of a text, and the characters after it. -/
def readLongest? (cs : List Char) : Option (Number × List Char) :=
  let sign : Bool × List Char := match cs with
    | '-' :: rest => (true, rest)
    | '+' :: rest => (false, rest)
    | rest => (false, rest)
  if "Infinity".toList.isPrefixOf sign.2 then some (.infinite sign.1, sign.2.drop 8)
  else readDecimal? sign.1 sign.2

/-- The base that a text announces, and the digits after the announcement. -/
def announcedBase? : List Char → Option (Nat × List Char)
  | '0' :: c :: rest =>
    if c = 'x' || c = 'X' then some (16, rest)
    else if c = 'o' || c = 'O' then some (8, rest)
    else if c = 'b' || c = 'B' then some (2, rest)
    else none
  | _ => none

/-- The number that a trimmed text spells. -/
def ofTrimmed (cs : List Char) : Number :=
  if cs.isEmpty then zero
  else
    match announcedBase? cs with
    | some (base, digits) =>
      let read := readDigits base 0 digits
      if digits.isEmpty || !read.2.isEmpty then .nan else .ofNat read.1
    | none =>
      match readLongest? cs with
      | some (x, []) => x
      | _ => .nan

/-- The number that a script text spells: zero for an empty text, `nan` for one that is no number.
-/
def ofText (s : Units) : Number := ((asciiChars? s.trim).map ofTrimmed).getD .nan

/-- The integer that a script text spells. -/
def integerOfText? (s : Units) : Option Int := do
  let cs ← asciiChars? s.trim
  match cs with
  | [] => some 0
  | '-' :: ds => (whole 10 ds).map fun n => -(n : Int)
  | '+' :: ds => (whole 10 ds).map fun n => (n : Int)
  | ds =>
    match announcedBase? ds with
    | some (base, digits) => (whole base digits).map fun n => (n : Int)
    | none => (whole 10 ds).map fun n => (n : Int)
where
  whole (base : Nat) (ds : List Char) : Option Nat :=
    let read := readDigits base 0 ds
    if ds.isEmpty || !read.2.isEmpty then none else some read.1

/-! ### Numbers in other notations -/

/-- The character of a digit in bases up to 36. -/
def digitChar (digit : Nat) : Char :=
  if digit < 10 then Char.ofNat (48 + digit) else Char.ofNat (87 + digit)

/-- The digits of a natural number in a base up to 36. The first argument bounds their number. -/
def digitsIn (base : Nat) : Nat → Nat → List Char → List Char
  | 0, _, acc => acc
  | fuel + 1, n, acc =>
    let c := digitChar (n % base)
    if n / base = 0 then c :: acc else digitsIn base fuel (n / base) (c :: acc)

/-- The text of an integer in a base up to 36. -/
def integerText (base : Nat) (i : Int) : String :=
  let ds := digitsIn base (Nat.log2 i.natAbs + 1) i.natAbs []
  String.ofList (if i < 0 then '-' :: ds else ds)

/-- The product of a finite number and a natural number. -/
def timesNat (x : Number) (n : Nat) : Number :=
  match x with
  | .finite s m e =>
    let r := ratio m e
    ofRatio s (r.1 * n) r.2
  | _ => x

/-- The digits of a fraction in a base, the last first, and what is left of the fraction. They end
when `written`, the number that all digits so far make, is too great to tell more of them apart. -/
def fractionDigits (base : Nat) : Nat → Nat → Number → List Nat → List Nat × Number
  | 0, _, x, acc => (acc, x)
  | fuel + 1, written, x, acc =>
    if x.isZero || mantissaBound / 2 ≤ written then (acc, x)
    else
      let shifted := x.timesNat base
      let digit := shifted.floorNat
      fractionDigits base fuel (written * base + digit) (shifted.add (.ofInt (-digit)))
        (digit :: acc)

/-- A positive number in a base, rounded to the digits that tell it from others: the whole part and
the digits after the point. -/
def inBase (base : Nat) (x : Number) : Nat × List Nat :=
  let whole := x.floorNat
  let found := fractionDigits base 1074 whole (x.add (.ofInt (-whole))) []
  let roundsUp := ((found.2.timesNat base).less? (.ofNat (base / 2))) == some false
  if roundsUp then
    match found.1.dropWhile (· == base - 1) with
    | [] => (whole + 1, [])
    | d :: rest => (whole, ((d + 1) :: rest).reverse)
  else (whole, (found.1.dropWhile (· == 0)).reverse)

/-- The text of a number in a base up to 36, with the digits of its fraction. -/
def fractionText (base : Nat) (x : Number) : String :=
  let parts := inBase base (if x.isNegative then x.negate else x)
  (if x.isNegative then "-" else "") ++ integerText base parts.1 ++
    (if parts.2.isEmpty then "" else String.ofList ('.' :: parts.2.map digitChar))

/-- The text of a finite number with a fixed number of places, a half going up. -/
def fixedText (places : Nat) (negative : Bool) (m : Nat) (e : Int) : String :=
  let r := ratio m e
  let n := (2 * r.1 * Nat.pow 10 places + r.2) / (2 * r.2)
  let ds := padded (places + 1) (Nat.toDigits 10 n)
  let whole := ds.take (ds.length - places)
  let body := if places = 0 then whole else whole ++ '.' :: ds.drop (ds.length - places)
  String.ofList (if negative && m != 0 then '-' :: body else body)

/-- The nearest decimal `digits · 10 ^ (place - count)` with a given count of digits, for a positive
number, a half going up. The point stands after `place` digits. -/
def rounded (count m : Nat) (e : Int) : Nat × Int :=
  let r := ratio m e
  let place := magnitude r.1 r.2
  let fraction :=
    if (count : Int) ≤ place then (r.1, r.2 * Nat.pow 10 (place - count).toNat)
    else (r.1 * Nat.pow 10 (count - place).toNat, r.2)
  let digits := (2 * fraction.1 + fraction.2) / (2 * fraction.2)
  if digits = Nat.pow 10 count then (digits / 10, place + 1) else (digits, place)

/-- Digits with a point after the first. -/
def pointAfterFirst : List Char → List Char
  | [] => []
  | [d] => [d]
  | d :: rest => d :: '.' :: rest

/-- The exponent of a number whose point stands after `place` digits. -/
def exponentText (place : Int) : List Char :=
  'e' :: (if place - 1 < 0 then '-' else '+') :: Nat.toDigits 10 (place - 1).natAbs

/-- The digits of a number, `count` of them, and the place of the point. -/
def roundedDigits (count m : Nat) (e : Int) : List Char × Int :=
  if m = 0 then (List.replicate count '0', 1)
  else
    let r := rounded count m e
    (Nat.toDigits 10 r.1, r.2)

/-- The text of a finite number with an exponent, with `places` digits after the point or as many as
it takes. -/
def exponentialText (places : Option Nat) (negative : Bool) (m : Nat) (e : Int) : String :=
  let digits : List Char × Int := match places with
    | some n => roundedDigits (n + 1) m e
    | none =>
      if m = 0 then (['0'], 1)
      else
        let s := shortest m e
        let ds := Nat.toDigits 10 s.1
        (ds, ds.length + s.2)
  String.ofList ((if negative && m != 0 then ['-'] else []) ++
    (pointAfterFirst digits.1 ++ exponentText digits.2))

/-- The text of a finite number with `count` digits, with an exponent if it is very small or has
more digits before the point. -/
def preciseText (count : Nat) (negative : Bool) (m : Nat) (e : Int) : String :=
  let (ds, place) := roundedDigits count m e
  let body :=
    if place < -5 || (count : Int) < place then pointAfterFirst ds ++ exponentText place
    else if place ≤ 0 then '0' :: '.' :: (List.replicate (-place).toNat '0' ++ ds)
    else if place = count then ds
    else ds.take place.toNat ++ '.' :: ds.drop place.toNat
  String.ofList (if negative && m != 0 then '-' :: body else body)

end DecompilerBridge.Number
