import DecompilerBridge.Text.Hidden
import DecompilerBridge.Text.Units

/-!
# Quoted text

Quoted texts: string literals of the JSON grammar, for texts and for script texts, and the quoted
form in which log records and diagnostics show a text.
-/

set_option autoImplicit false

namespace DecompilerBridge.Text

/-- The lower case hexadecimal digit of a number below 16. -/
def hexDigit (n : Nat) : Char :=
  if n < 10 then Char.ofNat (48 + n) else Char.ofNat (87 + n)

/-- Four hexadecimal digits. -/
def hex4 (n : Nat) : List Char :=
  [hexDigit (n / 0x1000 % 16), hexDigit (n / 0x100 % 16), hexDigit (n / 0x10 % 16),
    hexDigit (n % 16)]

/-- How a character with code `n` is escaped inside a JSON string, if it has to be. -/
def jsonEscape (n : Nat) : Option (List Char) :=
  if n = 0x22 then some ['\\', '"']
  else if n = 0x5C then some ['\\', '\\']
  else if n = 0x8 then some ['\\', 'b']
  else if n = 0x9 then some ['\\', 't']
  else if n = 0xA then some ['\\', 'n']
  else if n = 0xC then some ['\\', 'f']
  else if n = 0xD then some ['\\', 'r']
  else if n < 0x20 then some ('\\' :: 'u' :: hex4 n)
  else none

/-- A character inside a JSON string. -/
def jsonChar (c : Char) : List Char := (jsonEscape c.toNat).getD [c]

/-- The JSON string literal of a text. -/
def jsonString (cs : List Char) : List Char := '"' :: (cs.flatMap jsonChar ++ ['"'])

/-- Texts separated by commas. -/
def commaSeparated : List (List Char) → List Char
  | [] => []
  | [cs] => cs
  | cs :: rest => cs ++ ',' :: commaSeparated rest

/-- The JSON array of string literals. -/
def jsonStrings (texts : List (List Char)) : List Char :=
  '[' :: (commaSeparated (texts.map jsonString) ++ [']'])

/-- A unit escaped by its number. -/
def escapedUnit (u : UInt16) : Units := Units.ofString (String.ofList ('\\' :: 'u' :: hex4 u.toNat))

/-- A unit that is no surrogate, inside a JSON string. -/
def jsonUnit (u : UInt16) : Units :=
  match jsonEscape u.toNat with
  | some cs => Units.ofString (String.ofList cs)
  | none => [u]

/-- A unit inside a JSON string, when it does not start a surrogate pair. -/
def loneUnit (u : UInt16) : Units :=
  if Units.isLow u || Units.isHigh u then escapedUnit u else jsonUnit u

/-- The inside of the JSON string of a script text: surrogate pairs stand for themselves, lone
surrogates are escaped. -/
def jsonUnitsBody : Units → Units
  | [] => []
  | [u] => loneUnit u
  | u :: v :: r =>
    if Units.isHigh u && Units.isLow v then u :: v :: jsonUnitsBody r
    else loneUnit u ++ jsonUnitsBody (v :: r)

/-- The JSON string literal of a script text. -/
def jsonUnits (us : Units) : Units := [0x22] ++ jsonUnitsBody us ++ [0x22]

/-- The hexadecimal digits of a number, without leading zeros. -/
def hexDigits (n : Nat) : List Char := Nat.toDigits 16 n

/-- A character in the quoted form of diagnostics: one that has no visible form is shown by name or
number. -/
def shownChar (c : Char) : List Char :=
  let n := c.toNat
  if n = 0x22 then ['\\', '"']
  else if n = 0x5C then ['\\', '\\']
  else if n = 0x9 then ['\\', 't']
  else if n = 0xA then ['\\', 'n']
  else if n = 0xD then ['\\', 'r']
  else if n = 0 then ['\\', '0']
  else if isHidden c then '\\' :: 'u' :: '\x7b' :: (hexDigits n ++ ['\x7d'])
  else [c]

/-- The quoted form in which log records and diagnostics show a text. -/
def shown (s : String) : String :=
  String.ofList ('"' :: (s.toList.flatMap shownChar ++ ['"']))

end DecompilerBridge.Text
