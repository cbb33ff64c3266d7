import DecompilerBridge.Json.Value
import DecompilerBridge.Proofs.Json.Grammar

/-!
# Literals are read back

The reader of JSON texts reads every array of texts as the array that it spells by the grammar
(`Spells.scanValue_texts`). The reader has fuel, and an array is long enough for as many items as it
has. What is written for a text spells that text (`SpellsChars.jsonChar`), so an array of literals
is read as the array of the texts (`parse_jsonStrings`).

By the grammar, a text that goes on with an array of literals spells that array there and nothing
else (`spells_jsonStrings_only`).
-/

set_option autoImplicit false

namespace DecompilerBridge.Json

open Text

/-! ## String literals -/

/-- A digit stands for its number. -/
theorem hexDigit_digit {n : Nat} (small : n < 16) : HexDigit (hexDigit n) n := by
  have every : ∀ k < 16, "0123456789abcdef".toList[k]? = some (hexDigit k) := by decide
  exact .inl (every n small)

/-- Four digits spell their number. -/
theorem hex4_number {n : Nat} (small : n < 0x10000) : Hex4 (hex4 n) n := by
  have digit : ∀ k, HexDigit (hexDigit (k % 16)) (k % 16) :=
    fun k => hexDigit_digit (Nat.mod_lt k (by decide))
  have number :
      ((n / 0x1000 % 16 * 16 + n / 0x100 % 16) * 16 + n / 0x10 % 16) * 16 + n % 16 = n := by
    omega
  have spelled := Hex4.digits (digit (n / 0x1000)) (digit (n / 0x100)) (digit (n / 0x10)) (digit n)
  rwa [number] at spelled

/-- What is written for a character spells it. -/
theorem SpellsChars.jsonChar {body cs : List Char} (spelled : SpellsChars body cs) (c : Char) :
    SpellsChars (Text.jsonChar c ++ body) (c :: cs) := by
  -- a short escape: the character is known by its number
  have short : ∀ n letter, c.toNat = n → (letter, Char.ofNat n) ∈ shortEscapes →
      SpellsChars (['\\', letter] ++ body) (c :: cs) := by
    rintro n letter number escape
    rw [← number, Char.ofNat_toNat] at escape
    exact .short escape spelled
  unfold Text.jsonChar jsonEscape
  split
  · next number => exact short _ _ number (by decide)
  split
  · next number => exact short _ _ number (by decide)
  split
  · next number => exact short _ _ number (by decide)
  split
  · next number => exact short _ _ number (by decide)
  split
  · next number => exact short _ _ number (by decide)
  split
  · next number => exact short _ _ number (by decide)
  split
  · next number => exact short _ _ number (by decide)
  split
  · next control =>
    obtain ⟨u, units, number, -, -⟩ := Units.ofChar_short (c := c) (by omega)
    have escaped : EscapesUnits ('\\' :: 'u' :: hex4 c.toNat) (Units.ofChar c) := by
      rw [units, ← List.append_nil (hex4 c.toNat)]
      exact .cons (number ▸ hex4_number (by omega)) .nil
    exact .units escaped spelled
  · next notQuote notBackslash _ _ _ _ _ visible =>
    have notQuote' : c ≠ '"' := by rintro rfl; exact notQuote rfl
    have notBackslash' : c ≠ '\\' := by rintro rfl; exact notBackslash rfl
    exact .plain notQuote' notBackslash' (Nat.not_lt.1 visible) spelled

/-- The inside of the literal of a text spells the text. -/
theorem spellsChars_flatMap (cs : List Char) : SpellsChars (cs.flatMap jsonChar) cs := by
  induction cs with
  | nil => exact .nil
  | cons c cs ih => exact ih.jsonChar c

/-! ## Arrays of texts -/

/-- A string literal is read as a value, and so it is after blanks. -/
theorem StringLiteral.scanValue {gap cs : List Char} {s : String} (spelled : StringLiteral cs s)
    (blank : Gap gap) (fuel : Nat) (rest : List Char) :
    Json.scanValue (fuel + 1) (gap ++ (cs ++ rest)) = .ok (.string s, rest) := by
  obtain ⟨inside, rfl, scans⟩ := spelled.scan
  have opened : skipBlanks (gap ++ ('"' :: inside ++ rest)) = '"' :: (inside ++ rest) := by
    rw [blank.skip]
    exact skipBlanks_cons rfl _
  rw [Json.scanValue, opened]
  simp only [scans]

/-- A text with blanks around it is read as a value, up to the mark after it. -/
theorem Padded.scanValue {cs : List Char} {s : String} (spelled : Padded Spells cs (.string s))
    (fuel : Nat) {mark : Char} (token : isBlank mark = false) (rest : List Char) :
    ∃ after, Json.scanValue (fuel + 1) (cs ++ mark :: rest) = .ok (.string s, after) ∧
      skipBlanks after = mark :: rest := by
  obtain @⟨before, inner, gap, _, blankBefore, spelled, blankAfter⟩ := spelled
  cases spelled with
  | string literal =>
    refine ⟨gap ++ mark :: rest, ?_, ?_⟩
    · rw [List.append_assoc, List.append_assoc]
      exact literal.scanValue blankBefore fuel _
    · rw [blankAfter.skip]
      exact skipBlanks_cons token rest

/-- Texts with commas between them are read as the items of an array. -/
theorem CommaList.scanItems {cs : List Char} {texts : List String} {fuel : Nat}
    (list : CommaList (Padded Spells) cs (texts.map .string)) (enough : texts.length < fuel)
    (rest : List Char) :
    Json.scanItems fuel (cs ++ ']' :: rest) = .ok (texts.map .string, rest) := by
  induction texts generalizing cs fuel with
  | nil => cases list
  | cons s later ih =>
    obtain ⟨fuel, rfl⟩ : ∃ k, fuel = k + 2 := ⟨fuel - 2, by simp at enough; omega⟩
    rw [List.map_cons] at list
    rw [Json.scanItems]
    generalize items : later.map Written.string = written at list
    cases list with
    | last item =>
      obtain rfl := List.map_eq_nil_iff.1 items
      obtain ⟨after, read, marked⟩ := item.scanValue fuel (show isBlank ']' = false from rfl) rest
      rw [read]
      simp only [marked]
      rfl
    | @more first others _ _ item list =>
      subst items
      obtain ⟨after, read, marked⟩ := 
        item.scanValue fuel (show isBlank ',' = false from rfl) (others ++ ']' :: rest)
      have next : Json.scanItems (fuel + 1) (others ++ ']' :: rest) =
          .ok (later.map .string, rest) := ih list (by simp at enough ⊢; omega)
      rw [List.append_assoc, List.cons_append, read]
      simp only [marked, next]
      rfl

/-- Items start with something else than a closing bracket, also after blanks. -/
theorem CommaList.opens {cs : List Char} {items : List Written}
    (spelled : CommaList (Padded Spells) cs items) (rest : List Char) :
    ∃ c tail, skipBlanks (cs ++ rest) = c :: tail ∧ c ≠ ']' := by
  have first : ∀ {cs : List Char} {v : Written} (rest : List Char), Padded Spells cs v →
      ∃ c tail, skipBlanks (cs ++ rest) = c :: tail ∧ c ≠ ']' := by
    rintro _ v rest ⟨blank, spelled, -⟩
    rw [List.append_assoc, List.append_assoc, spelled.skip blank]
    obtain ⟨c, tail, rfl, opens⟩ := spelled.start
    refine ⟨c, _, rfl, ?_⟩
    rintro rfl
    cases opens
  cases spelled with
  | last item => exact first rest item
  | more item others =>
    rw [List.append_assoc]
    exact first _ item

/-- An array of texts is read as a value. -/
theorem Spells.scanValue_texts {cs : List Char} {texts : List String}
    (spelled : Spells cs (.array (texts.map .string))) {fuel : Nat} (enough : cs.length < fuel)
    (rest : List Char) :
    scanValue (fuel + 1) (cs ++ rest) = .ok (.array (texts.map .string), rest) := by
  generalize written : Written.array (texts.map .string) = v at spelled
  cases spelled with
  | noItems blank =>
    obtain rfl := List.map_eq_nil_iff.1 (Written.array.inj written)
    rw [scanValue, List.cons_append, List.append_assoc, skipBlanks_cons rfl]
    simp only [blank.skip]
    rfl
  | @items inside items list =>
    obtain rfl := Written.array.inj written
    have few := list.length_le
    rw [List.length_map] at few
    have read : Json.scanItems fuel (inside ++ ']' :: rest) = .ok (texts.map .string, rest) :=
      list.scanItems (by simp at enough; omega) rest
    obtain ⟨c, tail, start, other⟩ := list.opens (']' :: rest)
    rw [scanValue, List.cons_append, List.append_assoc, skipBlanks_cons rfl, List.singleton_append]
    simp only [start, read]
    split
    · next closed => exact absurd (List.cons.inj closed).1 other
    · rfl
  | _ => cases written

/-! ## Arrays of literals by the grammar -/

/-- What is written for a text is a string literal of it. -/
theorem StringLiteral.jsonString (cs : List Char) :
    StringLiteral (Text.jsonString cs) (String.ofList cs) :=
  .quoted (spellsChars_flatMap cs)

/-- Literals between commas are a list of texts. -/
theorem commaList_literals {texts : List (List Char)} (some : texts ≠ []) :
    CommaList (Padded Spells) (commaSeparated (texts.map jsonString))
      (texts.map fun cs => .string (String.ofList cs)) := by
  have padded : ∀ cs, Padded Spells (jsonString cs) (.string (String.ofList cs)) := by
    intro cs
    have item := Padded.gaps .nil (Spells.string (.jsonString cs)) .nil
    rwa [List.append_nil] at item
  induction texts with
  | nil => exact absurd rfl some
  | cons cs later ih =>
    cases later with
    | nil => exact .last (padded cs)
    | cons ds later => exact .more (padded cs) (ih (List.cons_ne_nil ds later))

/-- An array of literals spells the array of their texts. -/
theorem spells_jsonStrings (texts : List (List Char)) :
    Spells (jsonStrings texts) (.array (texts.map fun cs => .string (String.ofList cs))) := by
  cases texts with
  | nil => exact .noItems .nil
  | cons cs later => exact .items (commaList_literals (List.cons_ne_nil cs later))

/-- An array of literals is read as the array of their texts. -/
theorem parse_jsonStrings (texts : List (List Char)) :
    parse (String.ofList (jsonStrings texts)) =
      .ok (.array (texts.map fun cs => .string (String.ofList cs))) := by
  have same : texts.map (fun cs => Written.string (String.ofList cs)) =
      (texts.map String.ofList).map .string := (List.map_map ..).symm
  have enough : (jsonStrings texts).length < 2 * (jsonStrings texts).length + 1 := by omega
  have read := (same ▸ spells_jsonStrings texts : Spells _ _).scanValue_texts enough []
  rw [List.append_nil] at read
  rw [parse, parseChars, String.toList_ofList, read, List.map_map]
  rfl

/-- A value in front of a separator is a string literal if the text goes on with one. -/
theorem padded_jsonString {cs text rest after : List Char} {v : Written} {sep sep' : Char}
    (spelled : Padded Spells cs v) (token : isBlank sep' = false)
    (same : cs ++ sep :: rest = jsonString text ++ sep' :: after) :
    cs = jsonString text ∧ v = .string (String.ofList text) ∧ sep = sep' ∧ rest = after := by
  obtain @⟨before, inner, gap, _, blankBefore, spelled, blankAfter⟩ := spelled
  obtain rfl : before = [] := by
    rw [List.append_assoc] at same
    exact blankBefore.eq_nil rfl same
  obtain ⟨c, inside, rfl, -⟩ := spelled.start
  obtain ⟨rfl, insides⟩ := List.cons.inj same
  obtain ⟨body, chars, rfl, characters, rfl⟩ := spelled.of_quote
  -- both literals are scanned, as one text
  have scanned := characters.scan (gap ++ sep :: rest)
  have scannedText := (spellsChars_flatMap text).scan (sep' :: after)
  have inner :
      body ++ '"' :: (gap ++ sep :: rest) = text.flatMap jsonChar ++ '"' :: sep' :: after := by
    simpa using insides
  rw [inner, scannedText] at scanned
  obtain ⟨rfl, follows⟩ := Prod.mk.inj (Except.ok.inj scanned)
  obtain rfl := blankAfter.eq_nil token follows.symm
  obtain ⟨rfl, rfl⟩ := List.cons.inj follows
  have bodies := List.append_cancel_right inner
  exact ⟨by simp [jsonString, bodies], rfl, rfl, rfl⟩

/-- Items in front of a closing bracket are string literals if the text goes on with these. -/
theorem commaList_jsonStrings {texts : List (List Char)} (some : texts ≠ [])
    {cs rest after : List Char} {items : List Written}
    (spelled : CommaList (Padded Spells) cs items)
    (same : cs ++ ']' :: rest = commaSeparated (texts.map jsonString) ++ ']' :: after) :
    cs = commaSeparated (texts.map jsonString) ∧
      items = texts.map (fun text => .string (String.ofList text)) ∧ rest = after := by
  induction texts generalizing cs items with
  | nil => exact absurd rfl some
  | cons text later ih =>
    cases later with
    | nil =>
      have only : commaSeparated ([text].map jsonString) = jsonString text := rfl
      rw [only] at same ⊢
      cases spelled with
      | last item =>
        obtain ⟨rfl, rfl, -, rfl⟩ := padded_jsonString item rfl same
        exact ⟨rfl, rfl, rfl⟩
      | more item others =>
        rw [List.append_assoc, List.cons_append] at same
        obtain ⟨-, -, wrong, -⟩ := padded_jsonString item rfl same
        cases wrong
    | cons next later =>
      have written : commaSeparated ((text :: next :: later).map jsonString) =
          jsonString text ++ ',' :: commaSeparated ((next :: later).map jsonString) := rfl
      rw [written, List.append_assoc, List.cons_append] at same
      rw [written]
      cases spelled with
      | last item =>
        obtain ⟨-, -, wrong, -⟩ := padded_jsonString item rfl same
        cases wrong
      | more item others =>
        rw [List.append_assoc, List.cons_append] at same
        obtain ⟨rfl, rfl, -, same⟩ := padded_jsonString item rfl same
        obtain ⟨rfl, rfl, rfl⟩ := ih (List.cons_ne_nil next later) others same
        exact ⟨rfl, rfl, rfl⟩

/-- Literals with commas between them start with a quote. -/
theorem commaSeparated_opens (cs : List Char) (later : List (List Char)) (rest : List Char) :
    ∃ inner, commaSeparated ((cs :: later).map jsonString) ++ rest = '"' :: inner := by
  cases later <;> exact ⟨_, rfl⟩

/-- Items start with something else than a closing bracket. -/
theorem CommaList.start {cs rest after : List Char} {items : List Written}
    (spelled : CommaList (Padded Spells) cs items) : cs ++ rest ≠ ']' :: after := by
  intro same
  obtain ⟨c, tail, opened, other⟩ := spelled.opens rest
  rw [same, skipBlanks_cons rfl] at opened
  exact other (List.cons.inj opened).1.symm

/-- A text that goes on with an array of literals spells no other value there, and no more and no
less of the text belongs to it. -/
theorem spells_jsonStrings_only {texts : List (List Char)} {cs rest after : List Char} {v : Written}
    (spelled : Spells cs v) (same : cs ++ rest = jsonStrings texts ++ after) :
    cs = jsonStrings texts ∧ v = .array (texts.map fun text => .string (String.ofList text)) ∧
      rest = after := by
  obtain ⟨c, inside, rfl, -⟩ := spelled.start
  obtain ⟨rfl, insides⟩ := List.cons.inj same
  rcases spelled.of_bracket with ⟨gap, blank, rfl, rfl⟩ | ⟨list, items, spelledItems, rfl, rfl⟩
  · have closed : gap ++ ']' :: rest =
        commaSeparated (texts.map jsonString) ++ ']' :: after := by
      simpa using insides
    cases texts with
    | nil =>
      obtain rfl := blank.eq_nil rfl closed
      obtain ⟨-, rfl⟩ := List.cons.inj closed
      exact ⟨rfl, rfl, rfl⟩
    | cons text later =>
      obtain ⟨literals, opened⟩ := commaSeparated_opens text later (']' :: after)
      rw [opened] at closed
      obtain rfl := blank.eq_nil rfl closed
      cases closed
  · have closed : list ++ ']' :: rest =
        commaSeparated (texts.map jsonString) ++ ']' :: after := by
      simpa using insides
    cases texts with
    | nil => exact absurd closed spelledItems.start
    | cons text later =>
      obtain ⟨rfl, rfl, rfl⟩ :=
        commaList_jsonStrings (List.cons_ne_nil text later) spelledItems closed
      exact ⟨rfl, rfl, rfl⟩

end DecompilerBridge.Json
