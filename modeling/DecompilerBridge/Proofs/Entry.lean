import Mathlib.Data.List.Forall2
import DecompilerBridge.Bridge
import DecompilerBridge.Entry
import DecompilerBridge.Proofs.Json.ReadBack
import DecompilerBridge.Proofs.Text.Utf8
import DecompilerBridge.Proofs.Text.Words

/-!
# Arguments in the entry expression

Whatever the argument text is, the entry expression is fixed code around an array literal, and the
literal is data: it has no control character and no line separator, the quotes and backslashes in
its strings are escaped, and by the grammar it spells the words of the argument text and nothing
else (`Encloses`). No other reading starts where the literal starts, so the code after it stays
code.

The words can be told from the expression (`arguments_stay_data`): the literal spells its words
only.
-/

set_option autoImplicit false

namespace DecompilerBridge.Entry

open Json Text

/-! ## Escaped quotes -/

/-- The inside of a string literal, where every quote and every backslash belongs to an escape. -/
inductive Escaped : List Char → Prop where
  | nil : Escaped []
  | plain {c : Char} {cs : List Char} : c ≠ '"' → c ≠ '\\' → Escaped cs → Escaped (c :: cs)
  | escape {c : Char} {cs : List Char} : Escaped cs → Escaped ('\\' :: c :: cs)

/-- Digits of an escape hold nothing that would have to be escaped. -/
theorem Escaped.digits {digits cs : List Char} {n : Nat} (number : Hex4 digits n)
    (escaped : Escaped cs) : Escaped (digits ++ cs) := by
  have plain : ∀ {c : Char} {d : Nat} {cs : List Char}, HexDigit c d → Escaped cs →
      Escaped (c :: cs) := by
    intro c d cs digit rest
    have value := digit.value
    refine .plain ?_ ?_ rest
    · rintro rfl
      cases value
    · rintro rfl
      cases value
  obtain ⟨first, second, third, last⟩ := number
  exact plain first (plain second (plain third (plain last escaped)))

/-- Escapes stand in front of what is escaped. -/
theorem Escaped.units {escapes cs : List Char} {us : Units} (escaped : EscapesUnits escapes us)
    (rest : Escaped cs) : Escaped (escapes ++ cs) := by
  induction escaped with
  | nil => exact rest
  | cons number _ ih =>
    rw [List.cons_append, List.cons_append, List.append_assoc]
    exact .escape (.digits number ih)

/-- What the grammar admits as the inside of a string literal is escaped. -/
theorem Escaped.of_spells {body cs : List Char} (spelled : SpellsChars body cs) : Escaped body := by
  induction spelled with
  | nil => exact .nil
  | plain notQuote notBackslash _ _ ih => exact .plain notQuote notBackslash ih
  | short _ _ ih => exact .escape ih
  | units escaped _ ih => exact .units escaped ih

/-! ## The array literal -/

/-- The array of texts, as a JSON value. -/
def arrayOf (tokens : List (List Char)) : Written :=
  .array (tokens.map fun token => .string (String.ofList token))

/-- Arrays of literals are told apart by their tokens. -/
theorem arrayOf_inj {tokens others : List (List Char)} :
    arrayOf tokens = arrayOf others ↔ tokens = others := by
  have injective : Function.Injective fun token => Written.string (String.ofList token) :=
    fun _ _ same => String.ofList_injective (Written.string.inj same)
  rw [arrayOf, arrayOf, Written.array.injEq]
  exact (List.map_injective_iff.2 injective).eq_iff

/-- An array literal that holds texts as data, wherever it stands in code. -/
structure Encloses (literal : List Char) (tokens : List (List Char)) : Prop where
  /-- No control character and no character that may end a line. -/
  noControl : ∀ c ∈ literal,
    0x20 ≤ c.toNat ∧ c.toNat ≠ 0x85 ∧ c.toNat ≠ 0x2028 ∧ c.toNat ≠ 0x2029
  /-- Between its brackets and commas there are string literals with everything escaped. -/
  escaped : ∃ bodies, literal =
      '[' :: (commaSeparated (bodies.map fun body => '"' :: (body ++ ['"'])) ++ [']']) ∧
    List.Forall₂ (fun body token => Escaped body ∧ SpellsChars body token) bodies tokens
  /-- By the grammar it spells the array of the texts. -/
  spells : Spells literal (arrayOf tokens)
  /-- By the grammar nothing else can be read there, whatever code follows. -/
  only : ∀ {cs rest after : List Char} {v : Written}, Spells cs v →
    cs ++ rest = literal ++ after → cs = literal ∧ v = arrayOf tokens ∧ rest = after

/-- Tokens without white space are enclosed by their literals. -/
theorem encloses_jsonStrings {tokens : List (List Char)}
    (solid : ∀ token ∈ tokens, ∀ c ∈ token, Text.isBlank c = false) :
    Encloses (jsonStrings tokens) tokens where
  noControl c mem := by
    have blanks : ∀ n ∈ [0x85, 0x2028, 0x2029], Text.isBlank (Char.ofNat n) = true := by decide
    rcases of_mem_jsonStrings mem with visible | ⟨above, token, given, inside⟩
    · obtain ⟨above, below⟩ := visible
      omega
    · have other : ∀ n ∈ [0x85, 0x2028, 0x2029], c.toNat ≠ n := by
        rintro n blank rfl
        have wrong := blanks _ blank
        rw [Char.ofNat_toNat, solid token given c inside] at wrong
        cases wrong
      exact ⟨above, other _ (by decide), other _ (by decide), other _ (by decide)⟩
  escaped := by
    refine ⟨tokens.map (List.flatMap jsonChar), ?_, ?_⟩
    · rw [List.map_map]
      rfl
    · rw [List.forall₂_map_left_iff, List.forall₂_same]
      exact fun token _ => ⟨.of_spells (spellsChars_flatMap token), spellsChars_flatMap token⟩
  spells := spells_jsonStrings tokens
  only := spells_jsonStrings_only

/-- An array literal encloses no other texts. -/
theorem Encloses.unique {literal : List Char} {tokens others : List (List Char)}
    (encloses : Encloses literal tokens) (enclosesOthers : Encloses literal others) :
    tokens = others := by
  have whole : literal ++ [] = literal ++ [] := rfl
  exact arrayOf_inj.1 (enclosesOthers.only encloses.spells whole).2.1

/-! ## The expression -/

/-- Expressions are told apart by their literals, as all else in them is the same. -/
theorem expression_inj {args others : String} :
    expression args = expression others ↔ literal args = literal others := by
  refine ⟨fun same => ?_, fun same => by rw [expression, expression, same]⟩
  have chars := congrArg String.toList same
  simp only [expression, String.toList_append, String.toList_ofList, List.append_assoc] at chars
  exact List.append_cancel_right (List.append_cancel_left chars)

/-- Arguments cannot break out of the entry expression. It is fixed code around an array literal
that holds the words of the argument text as data; the words are the maximal runs of characters that
are no white space. So two argument texts give the same expression exactly if they have the same
words. -/
theorem arguments_stay_data (args : String) :
    ∃ tokens, MaximalRuns args.toList tokens ∧ (∀ token ∈ tokens, token ≠ []) ∧
      expression args = opening ++ String.ofList (literal args) ++ closing ∧
      Encloses (literal args) tokens ∧
      ∀ others : String,
        expression others = expression args ↔ MaximalRuns others.toList tokens := by
  have runs : ∀ text : String, MaximalRuns text.toList (wordLists text.toList) :=
    fun text => maximalRuns_iff.2 rfl
  have encloses : ∀ text : String, Encloses (literal text) (wordLists text.toList) :=
    fun text => encloses_jsonStrings fun token given => ((runs text).solid token given).2
  refine ⟨wordLists args.toList, runs args,
    fun token given => ((runs args).solid token given).1, rfl,
    encloses args, fun others => ?_⟩
  rw [expression_inj, maximalRuns_iff]
  constructor
  · intro same
    exact (encloses args).unique (same ▸ encloses others)
  · intro same
    rw [literal, literal, same]

/-! ## The expression as a source text -/

/-- A text has no NUL if none of its characters is one. -/
theorem nulOffset?_eq_none {text : String} (visible : ∀ c ∈ text.toList, c.toNat ≠ 0) :
    nulOffset? text = none := by
  unfold nulOffset?
  rw [List.findIdx?_eq_none_iff, toUTF8_toList]
  intro b mem
  obtain ⟨c, inText, inChar⟩ := List.mem_flatMap.1 mem
  simpa using ne_zero_of_mem_encodeChar inChar (visible c inText)

/-- The entry expression has no NUL, so it is always evaluated. -/
theorem nulOffset?_expression (args : String) : nulOffset? (expression args) = none := by
  refine nulOffset?_eq_none fun c mem => ?_
  have visible : (opening ++ closing).toList.all (·.toNat != 0) = true := by decide +kernel
  have fixed : ∀ c ∈ opening.toList ++ closing.toList, c.toNat ≠ 0 := by
    simpa [String.toList_append] using List.all_eq_true.1 visible
  simp only [expression, String.toList_append, String.toList_ofList, List.mem_append] at mem
  rcases mem with (before | inside) | after
  · exact fixed c (List.mem_append_left _ before)
  · rcases of_mem_jsonStrings inside with ⟨above, -⟩ | ⟨above, -⟩ <;> omega
  · exact fixed c (List.mem_append_right _ after)

end DecompilerBridge.Entry
