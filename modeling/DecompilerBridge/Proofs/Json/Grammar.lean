import DecompilerBridge.Json.Scan
import DecompilerBridge.Proofs.Text.Quoted

/-!
# The grammar of JSON texts

What a JSON text spells, said without a reader: a value, with the blanks between its tokens left out
and its escapes resolved. A number keeps its digits, and an object keeps its members in order, with
repetitions. A string literal spells a text, so an escape of a surrogate without its other half
spells nothing.

A string literal is scanned as the text that it spells (`StringLiteral.scan`), and the first
character of a value says of what kind it is (`Spells.start`).
-/

set_option autoImplicit false

namespace DecompilerBridge.Json

open Text

/-! ## The grammar -/

/-- A JSON value as it is written. -/
inductive Written where
  | null
  | bool (b : Bool)
  | number (numeral : List Char)
  | string (s : String)
  | array (items : List Written)
  | object (members : List (String × Written))

/-- Blanks between tokens. -/
def Gap (cs : List Char) : Prop := ∀ c ∈ cs, c ∈ [' ', '\t', '\n', '\r']

/-- A hexadecimal digit, of either case, and its value. -/
def HexDigit (c : Char) (value : Nat) : Prop :=
  "0123456789abcdef".toList[value]? = some c ∨ "0123456789ABCDEF".toList[value]? = some c

/-- Four hexadecimal digits and their number. -/
inductive Hex4 : List Char → Nat → Prop where
  | digits {a b c d : Char} {i j k l : Nat} : HexDigit a i → HexDigit b j → HexDigit c k →
      HexDigit d l → Hex4 [a, b, c, d] (((i * 16 + j) * 16 + k) * 16 + l)

/-- Units written by their numbers. -/
inductive EscapesUnits : List Char → Units → Prop where
  | nil : EscapesUnits [] []
  | cons {digits cs : List Char} {u : UInt16} {us : Units} : Hex4 digits u.toNat →
      EscapesUnits cs us → EscapesUnits ('\\' :: 'u' :: (digits ++ cs)) (u :: us)

/-- The letters of the short escapes and the characters that they stand for. -/
def shortEscapes : List (Char × Char) :=
  [('"', '"'), ('\\', '\\'), ('/', '/'), ('b', '\x08'), ('f', '\x0c'), ('n', '\n'), ('r', '\r'),
    ('t', '\t')]

/-- The inside of a string literal and the characters that it spells. Each of them stands for
itself, has a short escape, or is written by the numbers of its one or two units. -/
inductive SpellsChars : List Char → List Char → Prop where
  | nil : SpellsChars [] []
  | plain {c : Char} {body cs : List Char} : c ≠ '"' → c ≠ '\\' → 0x20 ≤ c.toNat →
      SpellsChars body cs → SpellsChars (c :: body) (c :: cs)
  | short {letter c : Char} {body cs : List Char} : (letter, c) ∈ shortEscapes →
      SpellsChars body cs → SpellsChars ('\\' :: letter :: body) (c :: cs)
  | units {escapes body cs : List Char} {c : Char} : EscapesUnits escapes (Units.ofChar c) →
      SpellsChars body cs → SpellsChars (escapes ++ body) (c :: cs)

/-- A string literal and its text. -/
inductive StringLiteral : List Char → String → Prop where
  | quoted {body cs : List Char} : SpellsChars body cs →
      StringLiteral ('"' :: (body ++ ['"'])) (String.ofList cs)

/-- A run of digits that is not empty. -/
def IsDigits (cs : List Char) : Prop := cs ≠ [] ∧ ∀ c ∈ cs, c.isDigit = true

/-- A number as the grammar has it: an integer part without a zero in front of other digits, then
maybe a fraction and maybe an exponent. -/
inductive IsNumeral : List Char → Prop where
  | parts {sign whole fraction exponent : List Char} : (sign = [] ∨ sign = ['-']) →
      IsDigits whole → (whole.head? = some '0' → whole = ['0']) →
      (fraction = [] ∨ ∃ ds, IsDigits ds ∧ fraction = '.' :: ds) →
      (exponent = [] ∨ ∃ mark sign ds, mark ∈ ['e', 'E'] ∧ sign ∈ [[], ['+'], ['-']] ∧ IsDigits ds ∧
        exponent = mark :: (sign ++ ds)) →
      IsNumeral (sign ++ (whole ++ (fraction ++ exponent)))

/-- Texts with commas between them and what each of them spells. -/
inductive CommaList {α : Type} (spells : List Char → α → Prop) : List Char → List α → Prop where
  | last {cs : List Char} {a : α} : spells cs a → CommaList spells cs [a]
  | more {cs rest : List Char} {a : α} {as : List α} : spells cs a → CommaList spells rest as →
      CommaList spells (cs ++ ',' :: rest) (a :: as)

/-- A text with blanks around it. -/
inductive Padded {α : Type} (spells : List Char → α → Prop) : List Char → α → Prop where
  | gaps {before cs after : List Char} {a : α} : Gap before → spells cs a → Gap after →
      Padded spells (before ++ (cs ++ after)) a

/-- A member of an object: its name, a colon and its value. -/
inductive Member {α : Type} (spells : List Char → α → Prop) : List Char → String × α → Prop where
  | named {name value : List Char} {key : String} {a : α} : Padded StringLiteral name key →
      Padded spells value a → Member spells (name ++ ':' :: value) (key, a)

/-- A JSON text without blanks around it, and the value that it spells. -/
inductive Spells : List Char → Written → Prop where
  | null : Spells ['n', 'u', 'l', 'l'] .null
  | true : Spells ['t', 'r', 'u', 'e'] (.bool true)
  | false : Spells ['f', 'a', 'l', 's', 'e'] (.bool false)
  | number {cs : List Char} : IsNumeral cs → Spells cs (.number cs)
  | string {cs : List Char} {s : String} : StringLiteral cs s → Spells cs (.string s)
  | noItems {gap : List Char} : Gap gap → Spells ('[' :: (gap ++ [']'])) (.array [])
  | items {cs : List Char} {items : List Written} : CommaList (Padded Spells) cs items →
      Spells ('[' :: (cs ++ [']'])) (.array items)
  | noMembers {gap : List Char} : Gap gap → Spells ('\x7b' :: (gap ++ ['\x7d'])) (.object [])
  | members {cs : List Char} {members : List (String × Written)} :
    CommaList (Member Spells) cs members →
      Spells ('\x7b' :: (cs ++ ['\x7d'])) (.object members)

/-! ## Blanks -/

/-- A gap is made of white space. -/
theorem Gap.blank {gap : List Char} (blank : Gap gap) : ∀ c ∈ gap, isBlank c = true := by
  have every : [' ', '\t', '\n', '\r'].all Json.isBlank = true := rfl
  exact fun c mem => List.all_eq_true.1 every c (blank c mem)

/-- A gap may be empty. -/
theorem Gap.nil : Gap [] := List.forall_mem_nil _

/-- Blanks in front of a text that starts with something else are no blanks at all. -/
theorem Gap.eq_nil {gap rest after : List Char} {c : Char} (blank : Gap gap)
    (token : Json.isBlank c = false) (same : gap ++ rest = c :: after) : gap = [] := by
  cases gap with
  | nil => rfl
  | cons b gap =>
    obtain ⟨rfl, -⟩ := List.cons.inj same
    rw [blank.blank b List.mem_cons_self] at token
    cases token

/-- A gap is skipped. -/
theorem Gap.skip {gap : List Char} (blank : Gap gap) (cs : List Char) :
    skipBlanks (gap ++ cs) = skipBlanks cs :=
  List.dropWhile_append_of_pos blank.blank

/-- A character that is not white space is not skipped. -/
theorem skipBlanks_cons {c : Char} (token : isBlank c = false) (cs : List Char) :
    skipBlanks (c :: cs) = c :: cs :=
  List.dropWhile_cons_of_neg (by simp [token])

/-! ## String literals -/

/-- A hexadecimal digit is read as its value. -/
theorem HexDigit.value {c : Char} {d : Nat} (digit : HexDigit c d) : hexValue? c = some d := by
  have lower : ∀ d < 16, "0123456789abcdef".toList[d]?.bind hexValue? = some d := by decide
  have upper : ∀ d < 16, "0123456789ABCDEF".toList[d]?.bind hexValue? = some d := by decide
  rcases digit with found | found
  · have value := lower d (List.getElem?_eq_some_iff.1 found).1
    rwa [found] at value
  · have value := upper d (List.getElem?_eq_some_iff.1 found).1
    rwa [found] at value

/-- The first three digits of an escape are collected. -/
theorem scanStringFrom_digit {c : Char} {d digits : Nat} (digit : HexDigit c d)
    (early : digits < 3) (high : Option Nat) (value : Nat) (rest : List Char) :
    scanStringFrom (.hex high digits value) (c :: rest) =
      scanStringFrom (.hex high (digits + 1) (value * 16 + d)) rest := by
  rw [scanStringFrom, digit.value]
  exact if_pos early

/-- Four digits are read up to the last one, which decides what they stand for. -/
theorem Hex4.scan {digits : List Char} {n : Nat} (number : Hex4 digits n) :
    ∃ c d value, hexValue? c = some d ∧ value * 16 + d = n ∧ ∀ high rest,
      scanStringFrom (.hex high 0 0) (digits ++ rest) =
        scanStringFrom (.hex high 3 value) (c :: rest) := by
  obtain ⟨first, second, third, last⟩ := number
  refine ⟨_, _, _, last.value, rfl, fun high rest => ?_⟩
  simp only [List.cons_append, List.nil_append]
  rw [scanStringFrom_digit first (by decide), scanStringFrom_digit second (by decide),
    scanStringFrom_digit third (by decide)]
  simp only [Nat.zero_mul, Nat.zero_add, Nat.reduceAdd]

/-- The number of a character that is no half of a surrogate pair. -/
theorem Hex4.scan_char {digits : List Char} {c : Char} (number : Hex4 digits c.toNat)
    (rest : List Char) :
    scanStringFrom (.hex none 0 0) (digits ++ rest) = push c (scanStringFrom .plain rest) := by
  obtain ⟨last, d, value, digit, whole, read⟩ := number.scan
  have scalar := Units.toNat_scalar c
  have notLow : ¬(decide (0xDC00 ≤ c.toNat) && decide (c.toNat < 0xE000)) = true := by
    simp only [Bool.and_eq_true, decide_eq_true_eq]
    omega
  have notHigh : ¬(decide (0xD800 ≤ c.toNat) && decide (c.toNat < 0xDC00)) = true := by
    simp only [Bool.and_eq_true, decide_eq_true_eq]
    omega
  rw [read, scanStringFrom, digit]
  simp only [Nat.lt_irrefl, if_false, whole, if_neg notLow, if_neg notHigh, Char.ofNat_toNat]

/-- The numbers of a surrogate pair. -/
theorem Hex4.scan_pair {highs lows : List Char} {u v : UInt16} (first : Hex4 highs u.toNat)
    (second : Hex4 lows v.toNat) (high : Units.isHigh u = true) (low : Units.isLow v = true)
    (rest : List Char) :
    scanStringFrom (.hex none 0 0) (highs ++ '\\' :: 'u' :: (lows ++ rest)) =
      push (Units.pair u v) (scanStringFrom .plain rest) := by
  obtain ⟨lastHigh, d, value, digit, whole, read⟩ := first.scan
  obtain ⟨lastLow, e, valueLow, digitLow, wholeLow, readLow⟩ := second.scan
  simp only [Units.isHigh, Bool.and_eq_true, decide_eq_true_eq] at high
  have notLow : ¬(decide (0xDC00 ≤ u.toNat) && decide (u.toNat < 0xE000)) = true := by
    simp only [Bool.and_eq_true, decide_eq_true_eq]
    omega
  have isHigh : (decide (0xD800 ≤ u.toNat) && decide (u.toNat < 0xDC00)) = true := by
    simp only [Bool.and_eq_true, decide_eq_true_eq]
    omega
  rw [read, scanStringFrom, digit]
  simp only [Nat.lt_irrefl, if_false, whole, if_neg notLow, if_pos isHigh]
  rw [scanStringFrom, if_pos rfl, scanStringFrom, if_pos rfl, readLow, scanStringFrom, digitLow]
  simp only [Nat.lt_irrefl, if_false, wholeLow]
  exact if_pos low

/-- The numbers of the units of a character are read as that character. -/
theorem EscapesUnits.scan {escapes : List Char} {c : Char}
    (escaped : EscapesUnits escapes (Units.ofChar c)) (rest : List Char) :
    scanStringFrom .plain (escapes ++ rest) = push c (scanStringFrom .plain rest) := by
  have opened : ∀ cs, scanStringFrom .plain ('\\' :: 'u' :: cs) =
      scanStringFrom (.hex none 0 0) cs := fun cs => rfl
  by_cases short : c.toNat < 0x10000
  · obtain ⟨u, units, number, -, -⟩ := Units.ofChar_short short
    rw [units] at escaped
    obtain _ | ⟨digits, none⟩ := escaped
    cases none
    rw [number] at digits
    simp only [List.append_nil, List.cons_append]
    rw [opened, digits.scan_char]
  · obtain ⟨u, v, units, high, -, low, same⟩ := Units.ofChar_long (Nat.le_of_not_lt short)
    rw [units] at escaped
    obtain _ | ⟨highs, lows⟩ := escaped
    obtain _ | ⟨lows, none⟩ := lows
    cases none
    simp only [List.append_nil, List.cons_append, List.append_assoc]
    rw [opened, highs.scan_pair lows high low, same]

/-- The inside of a string literal is scanned as what it spells, up to the closing quote. -/
theorem SpellsChars.scan {body cs : List Char} (spelled : SpellsChars body cs) (rest : List Char) :
    scanStringFrom .plain (body ++ '"' :: rest) = .ok (cs, rest) := by
  have shorts : ∀ p ∈ shortEscapes, simpleEscape? p.1 = some p.2 := by decide
  induction spelled with
  | nil => rfl
  | @plain c body cs notQuote notBackslash visible _ ih =>
    rw [List.cons_append, scanStringFrom, if_neg notQuote, if_neg notBackslash,
      if_neg (Nat.not_lt.2 visible), ih]
    rfl
  | @short letter c body cs escape _ ih =>
    rw [List.cons_append, List.cons_append, scanStringFrom, if_neg (by decide), if_pos rfl,
      scanStringFrom, shorts _ escape, ih]
    rfl
  | units escaped _ ih =>
    rw [List.append_assoc, escaped.scan, ih]
    rfl

/-- A string literal starts with its quote, and after it the text is scanned that it spells. -/
theorem StringLiteral.scan {cs : List Char} {s : String} (spelled : StringLiteral cs s) :
    ∃ inside, cs = '"' :: inside ∧ ∀ rest, scanString (inside ++ rest) = .ok (s, rest) := by
  obtain ⟨chars⟩ := spelled
  refine ⟨_, rfl, fun rest => ?_⟩
  rw [scanString, List.append_assoc, List.singleton_append, chars.scan]

/-! ## Lists -/

/-- A list has no more items than commas, and one. -/
theorem CommaList.length_le {α : Type} {spells : List Char → α → Prop} {cs : List Char}
    {as : List α} (list : CommaList spells cs as) : as.length ≤ cs.length + 1 := by
  induction list with
  | last => exact Nat.le_add_left 1 _
  | more _ _ ih =>
    rw [List.length_cons, List.length_append, List.length_cons]
    omega

/-! ## Starts of values -/

/-- The kinds of values. -/
inductive Kind where
  | null
  | bool
  | number
  | string
  | array
  | object

/-- The kind of value that is written. -/
def Written.kind : Written → Kind
  | .null => .null
  | .bool _ => .bool
  | .number _ => .number
  | .string _ => .string
  | .array _ => .array
  | .object _ => .object

/-- The kind of the values that start with a character. -/
def kindAt : Char → Option Kind
  | 'n' => some .null
  | 't' => some .bool
  | 'f' => some .bool
  | '"' => some .string
  | '[' => some .array
  | '\x7b' => some .object
  | c => if c = '-' || c.isDigit then some .number else none

/-- A number starts with a minus sign or a digit. -/
theorem kindAt_eq_number_iff {c : Char} :
    kindAt c = some .number ↔ (decide (c = '-') || c.isDigit) = true := by
  unfold kindAt
  split
  all_goals first | exact ⟨nofun, fun wrong => absurd wrong (by decide)⟩ | skip
  split
  · next numeric => exact ⟨fun _ => numeric, fun _ => rfl⟩
  · next other => exact ⟨nofun, fun numeric => absurd numeric other⟩

/-- What opens a value is not white space. -/
theorem isBlank_of_kindAt {c : Char} {kind : Kind} (opens : kindAt c = some kind) :
    isBlank c = false := by
  rw [Bool.eq_false_iff]
  intro blank
  simp only [isBlank, Bool.or_eq_true, decide_eq_true_eq] at blank
  rcases blank with ((rfl | rfl) | rfl) | rfl <;> cases opens

/-- A numeral starts as a number. -/
theorem IsNumeral.start {cs : List Char} (numeral : IsNumeral cs) :
    ∃ c tail, cs = c :: tail ∧ kindAt c = some .number := by
  obtain ⟨rfl | rfl, ⟨some, digits⟩, -, -, -⟩ := numeral
  · obtain ⟨c, ds, rfl⟩ := List.exists_cons_of_ne_nil some
    have digit := digits c List.mem_cons_self
    exact ⟨c, _, rfl, kindAt_eq_number_iff.2 (by simp [digit])⟩
  · exact ⟨'-', _, rfl, rfl⟩

/-- The first character of a value says of what kind it is. -/
theorem Spells.start {cs : List Char} {v : Written} (spelled : Spells cs v) :
    ∃ c tail, cs = c :: tail ∧ kindAt c = some v.kind := by
  cases spelled with
  | number numeral => exact numeral.start
  | string literal =>
    obtain ⟨inside, rfl, -⟩ := literal.scan
    exact ⟨'"', inside, rfl, rfl⟩
  | _ => exact ⟨_, _, rfl, rfl⟩

/-- The first character of a spelled value tells its kind. -/
theorem Spells.opens {c : Char} {inside : List Char} {v : Written}
    (spelled : Spells (c :: inside) v) : kindAt c = some v.kind := by
  obtain ⟨d, tail, whole, opens⟩ := spelled.start
  rwa [(List.cons.inj whole).1]

/-- A value does not start like one of another kind. -/
theorem Spells.ne_cons {cs rest after : List Char} {v : Written} {c : Char} (spelled : Spells cs v)
    (other : kindAt c ≠ some v.kind) : cs ++ rest ≠ c :: after := by
  obtain ⟨d, tail, rfl, opens⟩ := spelled.start
  rintro same
  rw [(List.cons.inj same).1] at opens
  exact other opens

/-- The blanks in front of a value are skipped. -/
theorem Spells.skip {gap cs : List Char} {v : Written} (spelled : Spells cs v)
    (blank : Gap gap) (rest : List Char) : skipBlanks (gap ++ (cs ++ rest)) = cs ++ rest := by
  obtain ⟨c, tail, rfl, opens⟩ := spelled.start
  rw [blank.skip]
  exact skipBlanks_cons (isBlank_of_kindAt opens) _

/-- A value that starts with a quote is a string literal. -/
theorem Spells.of_quote {inside : List Char} {v : Written} (spelled : Spells ('"' :: inside) v) :
    ∃ body cs, inside = body ++ ['"'] ∧ SpellsChars body cs ∧ v = .string (String.ofList cs) := by
  have opens := spelled.opens
  cases v with
  | string s =>
    generalize whole : '"' :: inside = text at spelled
    obtain ⟨chars⟩ : StringLiteral text s := by
      cases spelled
      assumption
    exact ⟨_, _, (List.cons.inj whole).2, chars, rfl⟩
  | _ => cases opens

/-- A value that starts with a bracket is an array. -/
theorem Spells.of_bracket {inside : List Char} {v : Written} (spelled : Spells ('[' :: inside) v) :
    (∃ gap, Gap gap ∧ inside = gap ++ [']'] ∧ v = .array []) ∨
      ∃ cs items, CommaList (Padded Spells) cs items ∧ inside = cs ++ [']'] ∧ v = .array items := by
  have opens := spelled.opens
  cases v with
  | array items =>
    generalize whole : '[' :: inside = text at spelled
    cases spelled with
    | noItems blank => exact .inl ⟨_, blank, (List.cons.inj whole).2, rfl⟩
    | items list => exact .inr ⟨_, _, list, (List.cons.inj whole).2, rfl⟩
  | _ => cases opens

end DecompilerBridge.Json
