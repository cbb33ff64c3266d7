/-!
# Blanks

White space in command lines: the Unicode property White_Space, trimming, and splitting a text into
its maximal runs of other characters.
-/

set_option autoImplicit false

namespace DecompilerBridge.Text

/-- The characters that have the Unicode property White_Space. -/
def isBlank (c : Char) : Bool :=
  let n := c.toNat
  (0x9 ≤ n && n ≤ 0xD) || n == 0x20 || n == 0x85 || n == 0xA0 || n == 0x1680 ||
    (0x2000 ≤ n && n ≤ 0x200A) || n == 0x2028 || n == 0x2029 || n == 0x202F || n == 0x205F ||
    n == 0x3000

/-- Drop the characters at the end of a list that satisfy `p`. -/
def dropEndWhile (p : Char → Bool) (cs : List Char) : List Char :=
  (cs.reverse.dropWhile p).reverse

/-- The text without the white space at its start. -/
def trimStart (s : String) : String := String.ofList (s.toList.dropWhile isBlank)

/-- The text without the white space at both ends. -/
def trim (s : String) : String :=
  String.ofList (dropEndWhile isBlank (s.toList.dropWhile isBlank))

/-- Put a word in front of a list of words, unless it is empty. -/
def consWord (w : List Char) (ws : List (List Char)) : List (List Char) :=
  if w.isEmpty then ws else w :: ws

/-- The run of non-blank characters that a text starts with, and the words after it. -/
def runs : List Char → List Char × List (List Char)
  | [] => ([], [])
  | c :: cs =>
    if isBlank c then ([], consWord (runs cs).1 (runs cs).2) else (c :: (runs cs).1, (runs cs).2)

/-- The maximal runs of non-blank characters, in order. -/
def wordLists (cs : List Char) : List (List Char) := consWord (runs cs).1 (runs cs).2

/-- The maximal runs of non-blank characters of a text, in order. -/
def words (s : String) : List String := (wordLists s.toList).map String.ofList

/-- `stripLead lead s` is what follows `lead` in `s`, if `s` starts with it. -/
def stripLead (lead s : String) : Option String :=
  if lead.toList.isPrefixOf s.toList then some (String.ofList (s.toList.drop lead.toList.length))
  else none

/-- Whether `s` starts with `lead`. -/
def startsWith (s lead : String) : Bool := lead.toList.isPrefixOf s.toList

/-- The part of a list before the first `c`, and the part after it if there is one. -/
def cutFirst (c : Char) : List Char → List Char × Option (List Char)
  | [] => ([], none)
  | x :: xs => if x = c then ([], some xs) else (x :: (cutFirst c xs).1, (cutFirst c xs).2)

/-- Split a text at the first `c`, leaving the character out. -/
def splitFirst (c : Char) (s : String) : Option (String × String) :=
  match cutFirst c s.toList with
  | (before, some after) => some (String.ofList before, String.ofList after)
  | (_, none) => none

/-- Split a text at the last `c`, leaving the character out. -/
def splitLast (c : Char) (s : String) : Option (String × String) :=
  match cutFirst c s.toList.reverse with
  | (after, some before) => some (String.ofList before.reverse, String.ofList after.reverse)
  | (_, none) => none

end DecompilerBridge.Text
