/-!
# Bytes as text

Reading bytes as text. Valid UTF-8 is kept, and every maximal invalid part becomes one replacement
character.
-/

set_option autoImplicit false

namespace DecompilerBridge.Text

/-- The UTF-8 bytes of a list of characters. -/
def encodeChars (cs : List Char) : List UInt8 := cs.flatMap String.utf8EncodeChar

/-- The UTF-8 bytes of a text. -/
def utf8 (s : String) : List UInt8 := encodeChars s.toList

/-- The number of UTF-8 bytes of a list of characters. -/
def bytesOf : List Char → Nat
  | [] => 0
  | c :: cs => c.utf8Size + bytesOf cs

/-- The number of UTF-8 bytes of a text. -/
def byteCount (s : String) : Nat := bytesOf s.toList

/-- The character that stands for bytes that are no text. -/
def replacement : Char := Char.ofNat 0xFFFD

/-- The low six bits of a continuation byte. -/
def payload (b : UInt8) : Nat := b.toNat % 0x40

/-- Whether `b` lies between `lo` and `hi`. -/
def within (lo hi : Nat) (b : UInt8) : Bool := lo ≤ b.toNat && b.toNat ≤ hi

/-- Where a decoder stands: between characters, or inside one that still needs `missing + 1` bytes,
of which the next lies between `low` and `high`. The bits read so far are `bits`. -/
inductive Utf8State where
  | between
  | inside (missing bits low high : Nat)
deriving DecidableEq, Repr

/-- Begin a character with the byte `b`. The bounds of the second byte rule out overlong forms,
surrogates and values above U+10FFFF. -/
def begin (b : UInt8) : List Char × Utf8State :=
  let n := b.toNat
  if n < 0x80 then ([Char.ofNat n], .between)
  else if n < 0xC2 then ([replacement], .between)
  else if n < 0xE0 then ([], .inside 0 (n % 0x20) 0x80 0xBF)
  else if n = 0xE0 then ([], .inside 1 0 0xA0 0xBF)
  else if n = 0xED then ([], .inside 1 0xD 0x80 0x9F)
  else if n < 0xF0 then ([], .inside 1 (n % 0x10) 0x80 0xBF)
  else if n = 0xF0 then ([], .inside 2 0 0x90 0xBF)
  else if n < 0xF4 then ([], .inside 2 (n % 0x8) 0x80 0xBF)
  else if n = 0xF4 then ([], .inside 2 4 0x80 0x8F)
  else ([replacement], .between)

/-- Read one byte: the characters it completes or gives up, and the state after it. A byte that does
not continue a character gives that character up as one replacement and begins the next. -/
def advance : Utf8State → UInt8 → List Char × Utf8State
  | .between, b => begin b
  | .inside missing bits low high, b =>
    if within low high b then
      match missing with
      | 0 => ([Char.ofNat (bits * 0x40 + payload b)], .between)
      | k + 1 => ([], .inside k (bits * 0x40 + payload b) 0x80 0xBF)
    else (replacement :: (begin b).1, (begin b).2)

/-- Decode the bytes that follow a state. A character cut off by the end is replaced. -/
def decodeFrom : Utf8State → List UInt8 → List Char
  | .between, [] => []
  | .inside _ _ _ _, [] => [replacement]
  | s, b :: r => (advance s b).1 ++ decodeFrom (advance s b).2 r

/-- Decode bytes. -/
def decode (bytes : List UInt8) : List Char := decodeFrom .between bytes

/-- The characters of a text, read off its bytes. -/
def chars (s : String) : List Char := decode s.toUTF8.data.toList

/-- The text that bytes are read as. -/
def ofBytes (bytes : List UInt8) : String := String.ofList (decode bytes)

/-- The text of bytes that are valid UTF-8 throughout. -/
def ofValidBytes? (bytes : List UInt8) : Option String :=
  if utf8 (ofBytes bytes) = bytes then some (ofBytes bytes) else none

end DecompilerBridge.Text
