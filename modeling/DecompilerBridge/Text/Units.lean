import DecompilerBridge.Text.Lossy

/-!
# UTF-16 units

Texts of the script language: sequences of 16-bit units, in which a surrogate may stand alone.
-/

set_option autoImplicit false

namespace DecompilerBridge.Text

/-- A script text, unit by unit. -/
abbrev Units := List UInt16

namespace Units

/-- The one or two units of a character. -/
def ofChar (c : Char) : Units :=
  let n := c.toNat
  if n < 0x10000 then [n.toUInt16]
  else [(0xD800 + (n - 0x10000) / 0x400).toUInt16, (0xDC00 + (n - 0x10000) % 0x400).toUInt16]

/-- The units of a text. -/
def ofString (s : String) : Units := s.toList.flatMap ofChar

def isHigh (u : UInt16) : Bool := 0xD800 ≤ u.toNat && u.toNat < 0xDC00

def isLow (u : UInt16) : Bool := 0xDC00 ≤ u.toNat && u.toNat < 0xE000

/-- The character of a surrogate pair. -/
def pair (high low : UInt16) : Char :=
  Char.ofNat (0x10000 + (high.toNat - 0xD800) * 0x400 + (low.toNat - 0xDC00))

/-- Put a character in front of a decoded text; a failure further on moves by its byte size. -/
def consChar (c : Char) : Except Nat (List Char) → Except Nat (List Char)
  | .ok cs => .ok (c :: cs)
  | .error offset => .error (c.utf8Size + offset)

/-- Read units as characters. The error is the byte offset of the first surrogate that stands
alone, counted in the UTF-8 form of what comes before it. -/
def chars : Units → Except Nat (List Char)
  | [] => .ok []
  | u :: r =>
    if isLow u then .error 0
    else if isHigh u then
      match r with
      | [] => .error 0
      | v :: r₁ => if isLow v then consChar (pair u v) (chars r₁) else .error 0
    else consChar (Char.ofNat u.toNat) (chars r)

/-- The text that units spell, or the byte offset of the first lone surrogate. -/
def toString? (us : Units) : Except Nat String := (chars us).map String.ofList

/-- The white space that script texts trim: blanks, line ends, and the byte order mark. -/
def isScriptBlank (u : UInt16) : Bool :=
  let n := u.toNat
  (0x9 ≤ n && n ≤ 0xD) || n == 0x20 || n == 0xA0 || n == 0x1680 || (0x2000 ≤ n && n ≤ 0x200A) ||
    n == 0x2028 || n == 0x2029 || n == 0x202F || n == 0x205F || n == 0x3000 || n == 0xFEFF

/-- The units without white space at both ends. -/
def trim (us : Units) : Units :=
  ((us.dropWhile isScriptBlank).reverse.dropWhile isScriptBlank).reverse

/-- The parts of a text that spell one character each. A surrogate that stands alone is a part of
its own. -/
def characters : Units → List Units
  | [] => []
  | [u] => [[u]]
  | u :: v :: r =>
    if isHigh u && isLow v then [u, v] :: characters r else [u] :: characters (v :: r)

/-- Units joined with a separator. -/
def join (sep : Units) : List Units → Units
  | [] => []
  | [us] => us
  | us :: rest => us ++ sep ++ join sep rest

end Units

end DecompilerBridge.Text
