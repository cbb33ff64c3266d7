import DecompilerBridge.Text.Units

/-!
# Percent escapes

Script texts with characters written as a percent sign and hexadecimal digits.

In addresses a character is written as its UTF-8 bytes, and a text that cannot be written or read so
is refused. The older form of escapes writes units and leaves alone what it cannot read.
-/

set_option autoImplicit false

namespace DecompilerBridge.Text.Percent

/-- Why a text cannot be escaped or read back. -/
inductive Fault where
  | lowSurrogate
  | loneHighSurrogate
  | percentExpected
  | digitExpected
  | invalidBytes
deriving DecidableEq, Repr

def Fault.message : Fault → String
  | lowSurrogate => "invalid character"
  | loneHighSurrogate => "expecting surrogate pair"
  | percentExpected => "expecting %"
  | digitExpected => "expecting hex digit"
  | invalidBytes => "malformed UTF-8"

/-! ### Characters that stay as they are -/

/-- Whether a unit is one of some ASCII characters. -/
def isAmong (cs : List Char) (u : UInt16) : Bool := cs.any fun c => c.toNat == u.toNat

/-- Whether a unit is a letter or a digit of ASCII. -/
def isWordUnit (u : UInt16) : Bool :=
  decide (u.toNat < 128) && (Char.ofNat u.toNat).isAlphanum

/-- The marks that have a meaning in addresses. -/
def isReserved : UInt16 → Bool := isAmong [';', '/', '?', ':', '@', '&', '=', '+', '$', ',', '#']

/-- The units that a part of an address keeps. -/
def keptInPart (u : UInt16) : Bool :=
  isWordUnit u || isAmong ['-', '_', '.', '!', '~', '*', .ofNat 0x27, '(', ')'] u

/-- The units that a whole address keeps. -/
def keptInAddress (u : UInt16) : Bool := keptInPart u || isReserved u

/-- The units that the older form of escapes keeps. -/
def keptInText (u : UInt16) : Bool := isWordUnit u || isAmong ['@', '*', '_', '+', '-', '.', '/'] u

/-! ### Writing -/

/-- The unit of a hexadecimal digit in upper case. -/
def digit (n : Nat) : UInt16 := (if n % 16 < 10 then 48 + n % 16 else 55 + n % 16).toUInt16

/-- A byte as a percent sign and two digits. -/
def ofByte (n : Nat) : Units := [0x25, digit (n / 16), digit n]

/-- A character as its escaped bytes. -/
def ofChar (c : Char) : Units := (String.utf8EncodeChar c).flatMap fun b => ofByte b.toNat

/-- Escape all units but those that are kept. -/
def encode (kept : UInt16 → Bool) : Units → Except Fault Units
  | [] => .ok []
  | u :: r =>
    if kept u then (encode kept r).map (u :: ·)
    else if Units.isLow u then .error .lowSurrogate
    else if Units.isHigh u then
      match r with
      | [] => .error .loneHighSurrogate
      | v :: r₁ =>
        if Units.isLow v then (encode kept r₁).map (ofChar (Units.pair u v) ++ ·)
        else .error .loneHighSurrogate
    else (encode kept r).map (ofChar (Char.ofNat u.toNat) ++ ·)

/-- A unit in the older form of escapes. -/
def ofUnit (u : UInt16) : Units :=
  let n := u.toNat
  if keptInText u then [u]
  else if n < 0x100 then ofByte n
  else [0x25, 0x75, digit (n / 0x1000), digit (n / 0x100), digit (n / 0x10), digit n]

/-- Escape a text in the older form. -/
def escape (us : Units) : Units := us.flatMap ofUnit

/-! ### Reading -/

/-- The value of a hexadecimal digit. -/
def digitValue? (u : UInt16) : Option Nat :=
  let n := u.toNat
  if 48 ≤ n && n ≤ 57 then some (n - 48)
  else if 65 ≤ n && n ≤ 70 then some (n - 55)
  else if 97 ≤ n && n ≤ 102 then some (n - 87)
  else none

/-- The value of hexadecimal digits. -/
def value? : Units → Option Nat := fun us =>
  us.foldl (fun n u => do some ((← n) * 16 + (← digitValue? u))) (some 0)

/-- The escaped byte at the start of units, and the rest. -/
def byte : Units → Except Fault (Nat × Units)
  | 0x25 :: a :: b :: r =>
    match value? [a, b] with
    | some n => .ok (n, r)
    | none => .error .digitExpected
  | 0x25 :: _ => .error .digitExpected
  | _ => .error .percentExpected

/-- What the first byte of a longer character says: the bytes that follow, the least code that takes
so many, and the bits of the code. -/
def lead? (n : Nat) : Option (Nat × Nat × Nat) :=
  if 0xC0 ≤ n && n ≤ 0xDF then some (1, 0x80, n % 0x20)
  else if 0xE0 ≤ n && n ≤ 0xEF then some (2, 0x800, n % 0x10)
  else if 0xF0 ≤ n && n ≤ 0xF7 then some (3, 0x10000, n % 0x8)
  else none

/-- Read escaped bytes that go on with a character. There is no code if one of them does not. -/
def continuation (bits : Nat) : Nat → Units → Except Fault (Option Nat × Units)
  | 0, us => .ok (some bits, us)
  | missing + 1, us => do
    let (n, rest) ← byte us
    if n / 0x40 = 2 then continuation (bits * 0x40 + n % 0x40) missing rest else .ok (none, rest)

/-- The character that starts with an escaped byte of at least 128, and the rest. -/
def longChar (first : Nat) (us : Units) : Except Fault (Char × Units) := do
  match lead? first with
  | none => .error .invalidBytes
  | some (missing, least, bits) =>
    let (code, rest) ← continuation bits missing us
    match code with
    | some n =>
      if least ≤ n && n.isValidChar then .ok (Char.ofNat n, rest) else .error .invalidBytes
    | none => .error .invalidBytes

/-- Read escapes back. An escape of a unit that is to stay escaped is left as it is. The first
argument bounds the number of steps. -/
def decodeUpTo (stays : UInt16 → Bool) : Nat → Units → Except Fault Units
  | 0, _ => .ok []
  | _, [] => .ok []
  | fuel + 1, u :: r =>
    if u = 0x25 then do
      let (n, rest) ← byte (u :: r)
      if n < 0x80 then
        if stays n.toUInt16 then (decodeUpTo stays fuel r).map (u :: ·)
        else (decodeUpTo stays fuel rest).map (n.toUInt16 :: ·)
      else
        let (c, after) ← longChar n rest
        (decodeUpTo stays fuel after).map (Units.ofChar c ++ ·)
    else (decodeUpTo stays fuel r).map (u :: ·)

/-- Read escapes back. -/
def decode (stays : UInt16 → Bool) (us : Units) : Except Fault Units :=
  decodeUpTo stays us.length us

/-- Read back the older form of escapes. -/
def unescapeUpTo : Nat → Units → Units
  | 0, _ => []
  | _, [] => []
  | fuel + 1, u :: r =>
    if u = 0x25 then
      match r with
      | 0x75 :: a :: b :: c :: d :: rest =>
        match value? [a, b, c, d] with
        | some n => n.toUInt16 :: unescapeUpTo fuel rest
        | none => u :: unescapeUpTo fuel r
      | a :: b :: rest =>
        match value? [a, b] with
        | some n => n.toUInt16 :: unescapeUpTo fuel rest
        | none => u :: unescapeUpTo fuel r
      | _ => u :: unescapeUpTo fuel r
    else u :: unescapeUpTo fuel r

/-- Read back the older form of escapes, leaving alone what is none. -/
def unescape (us : Units) : Units := unescapeUpTo us.length us

end DecompilerBridge.Text.Percent
