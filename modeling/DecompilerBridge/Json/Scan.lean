import DecompilerBridge.Number.Basic
import DecompilerBridge.Text.Lossy
import DecompilerBridge.Text.Units

/-!
# Scanning JSON

Scanning of JSON texts: blanks, words, string literals and number literals.

A scanner takes the characters that are left and gives what it read and what is left then. It fails
where the text ends too early or where it stops being JSON, whichever comes first.
-/

set_option autoImplicit false

namespace DecompilerBridge.Json

/-- Where a text stops being JSON. -/
inductive Fault where
  /-- The text ends too early. -/
  | ended
  /-- A character cannot stand where it does. -/
  | malformed
deriving DecidableEq, Repr

/-- The blanks between JSON tokens. -/
def isBlank (c : Char) : Bool := c = ' ' || c = '\n' || c = '\t' || c = '\r'

/-- Drop the blanks in front. -/
def skipBlanks (cs : List Char) : List Char := cs.dropWhile isBlank

/-- Read the given characters. -/
def scanWord : List Char → List Char → Except Fault (List Char)
  | [], cs => .ok cs
  | _ :: _, [] => .error .ended
  | w :: ws, c :: cs => if c = w then scanWord ws cs else .error .malformed

/-- The value of a hexadecimal digit. -/
def hexValue? (c : Char) : Option Nat :=
  let n := c.toNat
  if 48 ≤ n && n ≤ 57 then some (n - 48)
  else if 65 ≤ n && n ≤ 70 then some (n - 55)
  else if 97 ≤ n && n ≤ 102 then some (n - 87)
  else none

/-- The character that a one-letter escape stands for. -/
def simpleEscape? (c : Char) : Option Char :=
  if c = '"' || c = '\\' || c = '/' then some c
  else if c = 'b' then some (Char.ofNat 8)
  else if c = 'f' then some (Char.ofNat 12)
  else if c = 'n' then some '\n'
  else if c = 'r' then some '\r'
  else if c = 't' then some '\t'
  else none

/-- Where the reader of a string literal stands. `high` is the first half of a surrogate pair that
has been read already. -/
inductive StringState where
  | plain
  | escape
  | hex (high : Option Nat) (digits value : Nat)
  | secondEscape (high : Nat)
  | secondHex (high : Nat)

/-- Put a character in front of what is read of a string literal. -/
def push (c : Char) : Except Fault (List Char × List Char) → Except Fault (List Char × List Char)
  | .ok (text, rest) => .ok (c :: text, rest)
  | .error e => .error e

/-- Read a string literal from inside, up to its closing quote. A numeric escape with less than four
bytes after it counts as an early end. -/
def scanStringFrom : StringState → List Char → Except Fault (List Char × List Char)
  | _, [] => .error .ended
  | .plain, c :: cs =>
    if c = '"' then .ok ([], cs)
    else if c = '\\' then scanStringFrom .escape cs
    else if c.toNat < 0x20 then .error .malformed
    else push c (scanStringFrom .plain cs)
  | .escape, c :: cs =>
    match simpleEscape? c with
    | some d => push d (scanStringFrom .plain cs)
    | none => if c = 'u' then scanStringFrom (.hex none 0 0) cs else .error .malformed
  | .hex high digits value, c :: cs =>
    match hexValue? c with
    | none => if digits + Text.bytesOf (c :: cs) < 4 then .error .ended else .error .malformed
    | some d =>
      let n := value * 16 + d
      if digits < 3 then scanStringFrom (.hex high (digits + 1) n) cs
      else
        match high with
        | none =>
          if 0xDC00 ≤ n && n < 0xE000 then .error .malformed
          else if 0xD800 ≤ n && n < 0xDC00 then scanStringFrom (.secondEscape n) cs
          else push (Char.ofNat n) (scanStringFrom .plain cs)
        | some h =>
          if 0xDC00 ≤ n && n < 0xE000 then
            push (Char.ofNat (0x10000 + (h - 0xD800) * 0x400 + (n - 0xDC00)))
                (scanStringFrom .plain cs)
          else .error .malformed
  | .secondEscape h, c :: cs =>
    if c = '\\' then scanStringFrom (.secondHex h) cs else .error .malformed
  | .secondHex h, c :: cs =>
    if c = 'u' then scanStringFrom (.hex (some h) 0 0) cs else .error .malformed

/-- Read a string literal after its opening quote. -/
def scanString (cs : List Char) : Except Fault (String × List Char) :=
  match scanStringFrom .plain cs with
  | .ok (text, rest) => .ok (String.ofList text, rest)
  | .error e => .error e

/-- A number literal: a whole number that fits into 64 bits, or anything else. -/
inductive Literal where
  | natural (n : Nat)
  | negative (n : Nat)
  | float (x : Number)
deriving DecidableEq, Repr

/-- The number of a literal. -/
def Literal.number : Literal → Number
  | natural n => .ofNat n
  | negative n => .ofInt (-n)
  | float x => x

/-- The greatest number of 64 bits. -/
def greatestWord : Nat := 0xFFFFFFFFFFFFFFFF

def digitValue (c : Char) : Nat := c.toNat - 48

/-- Read the digits of a whole number. Digits beyond 64 bits are only counted. -/
def scanDigits (value dropped : Nat) : List Char → (Nat × Nat) × List Char
  | [] => ((value, dropped), [])
  | c :: cs =>
    if c.isDigit then
      if dropped = 0 && value * 10 + digitValue c ≤ greatestWord then
        scanDigits (value * 10 + digitValue c) 0 cs
      else scanDigits value (dropped + 1) cs
    else ((value, dropped), c :: cs)

/-- Read the digits after a point, and count those that were used. Digits after one that does not
fit into 64 bits are passed over. -/
def scanFraction (value used : Nat) : List Char → (Nat × Nat) × List Char
  | [] => ((value, used), [])
  | c :: cs =>
    if c.isDigit then
      if value * 10 + digitValue c ≤ greatestWord then
        scanFraction (value * 10 + digitValue c) (used + 1) cs
      else ((value, used), cs.dropWhile Char.isDigit)
    else ((value, used), c :: cs)

/-- Divide by powers of ten until the rest of the exponent is within range. -/
def scaleDown : Nat → Number → Int → Number
  | 0, x, _ => x
  | fuel + 1, .finite s m e, exponent =>
    if -308 ≤ exponent then
      match Number.ofDecimal false 1 (-exponent) with
      | .finite _ n f => Number.divFinite s m e n f
      | other => other
    else
      match Number.ofDecimal false 1 308 with
      | .finite _ n f =>
        if m = 0 then .finite s m e
        else scaleDown fuel (Number.divFinite s m e n f) (exponent + 308)
      | other => other
  | _ + 1, x, _ => x

/-- `± value · 10 ^ exponent`, computed with one rounding of the value and one of the scaling. -/
def floatOf (negative : Bool) (value : Nat) (exponent : Int) : Except Fault Number :=
  match Number.ofRatio negative value 1 with
  | .finite s m e =>
    if 0 ≤ exponent then
      if m = 0 then .ok (.finite s m e)
      else if 308 < exponent then .error .malformed
      else
        match Number.ofDecimal false 1 exponent with
        | .finite _ n f =>
          match Number.mulFinite s m e n f with
          | .infinite _ => .error .malformed
          | x => .ok x
        | _ => .error .malformed
    else .ok (scaleDown 8 (.finite s m e) exponent)
  | _ => .error .malformed

/-- The greatest exponent that is taken as it is written. -/
def greatestExponent : Nat := 0x7FFFFFFF

/-- Read an exponent after its mark and finish the number. -/
def scanExponent (negative : Bool) (value : Nat) (shift : Int) (cs : List Char) :
    Except Fault (Number × List Char) :=
  let signed : Bool × List Char := match cs with
    | '+' :: rest => (false, rest)
    | '-' :: rest => (true, rest)
    | rest => (false, rest)
  match signed.2 with
  | [] => .error .ended
  | c :: _ =>
    if c.isDigit then
      let digits := signed.2.takeWhile Char.isDigit
      let rest := signed.2.dropWhile Char.isDigit
      let n := digits.foldl (fun n c => n * 10 + digitValue c) 0
      if greatestExponent < n then
        if value = 0 || signed.1 then .ok (.finite negative 0 Number.minExponent, rest)
        else .error .malformed
      else
        match floatOf negative value (if signed.1 then shift - n else shift + n) with
        | .ok x => .ok (x, rest)
        | .error e => .error e
    else .error .malformed

/-- Read what may follow the digits after a point. -/
def scanAfterFraction (negative : Bool) (value : Nat) (shift : Int) (cs : List Char) :
    Except Fault (Number × List Char) :=
  match cs with
  | 'e' :: rest => scanExponent negative value shift rest
  | 'E' :: rest => scanExponent negative value shift rest
  | rest =>
    match floatOf negative value shift with
    | .ok x => .ok (x, rest)
    | .error e => .error e

/-- The greatest absolute value of a negative integer of 64 bits. -/
def greatestNegative : Nat := 0x8000000000000000

/-- A whole number that was read to its end. -/
def wholeLiteral (negative : Bool) (value dropped : Nat) : Except Fault Literal :=
  if dropped ≠ 0 then Literal.float <$> floatOf negative value dropped
  else if !negative then .ok (.natural value)
  else if value = 0 || greatestNegative < value then Literal.float <$> floatOf true value 0
  else .ok (.negative value)

/-- Read what may follow the digits of a whole number. -/
def scanAfterWhole (negative : Bool) (value dropped : Nat) (cs : List Char) :
    Except Fault (Literal × List Char) :=
  match cs with
  | '.' :: rest =>
    let fraction := scanFraction value 0 rest
    match rest with
    | [] => .error .ended
    | c :: _ =>
      if c.isDigit then
        match scanAfterFraction negative fraction.1.1 ((dropped : Int) - fraction.1.2)
            fraction.2 with
        | .ok (x, after) => .ok (.float x, after)
        | .error e => .error e
      else .error .malformed
  | 'e' :: rest =>
    match scanExponent negative value dropped rest with
    | .ok (x, after) => .ok (.float x, after)
    | .error e => .error e
  | 'E' :: rest =>
    match scanExponent negative value dropped rest with
    | .ok (x, after) => .ok (.float x, after)
    | .error e => .error e
  | rest =>
    match wholeLiteral negative value dropped with
    | .ok x => .ok (x, rest)
    | .error e => .error e

/-- Read a number literal after its sign. A zero in front stands alone. -/
def scanUnsigned (negative : Bool) : List Char → Except Fault (Literal × List Char)
  | [] => .error .ended
  | c :: cs =>
    if c = '0' then
      match cs with
      | d :: _ => if d.isDigit then .error .malformed else scanAfterWhole negative 0 0 cs
      | [] => scanAfterWhole negative 0 0 cs
    else if c.isDigit then
      let digits := scanDigits 0 0 (c :: cs)
      scanAfterWhole negative digits.1.1 digits.1.2 digits.2
    else .error .malformed

/-- Read a number literal. -/
def scanNumber : List Char → Except Fault (Literal × List Char)
  | '-' :: cs => scanUnsigned true cs
  | cs => scanUnsigned false cs

end DecompilerBridge.Json
