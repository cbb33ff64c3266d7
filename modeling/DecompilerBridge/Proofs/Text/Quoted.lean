import DecompilerBridge.Text.Quoted

/-!
# Script texts and their JSON literals

A text survives the way through a script: its units spell it again (`toString?_ofString`), and the
JSON literal that scripts write of it is the one that is written of the text itself
(`jsonUnits_ofChars`), with commas between literals as well (`join_ofChars`). Both kinds of literal
are written character by character, and a character has one unit or is a surrogate pair
(`ofChar_short`, `ofChar_long`), so a character is what the inductions go by and not a unit.

An array of literals holds no control character (`of_mem_jsonStrings`), so it is always one line.
-/

set_option autoImplicit false

namespace DecompilerBridge.Text

namespace Units

/-- The units of characters. -/
abbrev ofChars (cs : List Char) : Units := cs.flatMap ofChar

/-- The units of characters are those of their text. -/
theorem ofString_ofList (cs : List Char) : ofString (String.ofList cs) = ofChars cs := by
  rw [ofString, String.toList_ofList]

/-- A character is a scalar value: no surrogate. -/
theorem toNat_scalar (c : Char) : c.toNat < 0xD800 ∨ (0xDFFF < c.toNat ∧ c.toNat < 0x110000) :=
  c.valid

/-- A character with one unit: the unit has its number and is no surrogate. -/
theorem ofChar_short {c : Char} (short : c.toNat < 0x10000) :
    ∃ u : UInt16, ofChar c = [u] ∧ u.toNat = c.toNat ∧ isHigh u = false ∧ isLow u = false := by
  have number : c.toNat.toUInt16.toNat = c.toNat := by
    rw [UInt16.toNat_ofNat']
    omega
  refine ⟨c.toNat.toUInt16, if_pos short, number, ?_, ?_⟩
  · have scalar := toNat_scalar c
    simp only [isHigh, number, Bool.and_eq_false_iff, decide_eq_false_iff_not]
    omega
  · have scalar := toNat_scalar c
    simp only [isLow, number, Bool.and_eq_false_iff, decide_eq_false_iff_not]
    omega

/-- A character with two units: they are a surrogate pair that stands for it. -/
theorem ofChar_long {c : Char} (long : 0x10000 ≤ c.toNat) :
    ∃ u v : UInt16, ofChar c = [u, v] ∧ isHigh u = true ∧ isLow u = false ∧ isLow v = true ∧
      pair u v = c := by
  have scalar := toNat_scalar c
  have high : (0xD800 + (c.toNat - 0x10000) / 0x400).toUInt16.toNat =
      0xD800 + (c.toNat - 0x10000) / 0x400 := by
    rw [UInt16.toNat_ofNat']
    omega
  have low : (0xDC00 + (c.toNat - 0x10000) % 0x400).toUInt16.toNat =
      0xDC00 + (c.toNat - 0x10000) % 0x400 := by
    rw [UInt16.toNat_ofNat']
    omega
  refine ⟨_, _, if_neg (by omega), ?_, ?_, ?_, ?_⟩
  · simp only [isHigh, high, Bool.and_eq_true, decide_eq_true_eq]
    omega
  · simp only [isLow, high, Bool.and_eq_false_iff, decide_eq_false_iff_not]
    omega
  · simp only [isLow, low, Bool.and_eq_true, decide_eq_true_eq]
    omega
  · rw [pair, high, low]
    have number : 0x10000 + (0xD800 + (c.toNat - 0x10000) / 0x400 - 0xD800) * 0x400 +
        (0xDC00 + (c.toNat - 0x10000) % 0x400 - 0xDC00) = c.toNat := by omega
    rw [number, Char.ofNat_toNat]

/-- The units of a character are read as that character. -/
theorem chars_ofChar_append (c : Char) (us : Units) :
    chars (ofChar c ++ us) = consChar c (chars us) := by
  by_cases short : c.toNat < 0x10000
  · obtain ⟨u, units, number, high, low⟩ := ofChar_short short
    rw [units, List.singleton_append, chars.eq_def]
    simp only [high, low, number, Char.ofNat_toNat, Bool.false_eq_true, if_false]
  · obtain ⟨u, v, units, high, low, lowNext, same⟩ := ofChar_long (Nat.le_of_not_lt short)
    rw [units, List.cons_append, List.singleton_append, chars.eq_def]
    simp only [high, low, lowNext, same, if_true, Bool.false_eq_true, if_false]

/-- The units of characters are read as these characters. -/
theorem chars_ofChars (cs : List Char) : chars (ofChars cs) = .ok cs := by
  induction cs with
  | nil => rfl
  | cons c cs ih =>
    rw [ofChars, List.flatMap_cons, chars_ofChar_append, ih]
    rfl

/-- The units of a text spell that text. -/
@[simp] theorem toString?_ofString (s : String) : toString? (ofString s) = .ok s := by
  rw [toString?, ofString, chars_ofChars]
  exact congrArg Except.ok (String.ofList_toList)

end Units

open Text.Units

/-! ## Literals -/

/-- A character is written alike in both kinds of literal. -/
theorem jsonUnitsBody_ofChar_append (c : Char) (us : Units) :
    jsonUnitsBody (ofChar c ++ us) = ofChars (jsonChar c) ++ jsonUnitsBody us := by
  by_cases short : c.toNat < 0x10000
  · obtain ⟨u, units, number, high, low⟩ := ofChar_short short
    have alone : loneUnit u = ofChars (jsonChar c) := by
      rw [loneUnit, high, low, jsonUnit, number, jsonChar]
      cases jsonEscape c.toNat with
      | none => simp [units]
      | some cs => exact ofString_ofList cs
    rw [units, List.singleton_append]
    cases us with
    | nil => simp [jsonUnitsBody, alone]
    | cons v us => simp [jsonUnitsBody, high, alone]
  · have long : 0x10000 ≤ c.toNat := Nat.le_of_not_lt short
    obtain ⟨u, v, units, high, -, low, -⟩ := ofChar_long long
    have plain : jsonChar c = [c] := by
      have unescaped : jsonEscape c.toNat = none := by
        unfold jsonEscape
        repeat rw [if_neg (by omega)]
      rw [jsonChar, unescaped]
      rfl
    rw [plain, units]
    simp [jsonUnitsBody, high, low, units]

/-- The literal of a script text is the literal of the text. -/
theorem jsonUnits_ofChars (cs : List Char) : jsonUnits (ofChars cs) = ofChars (jsonString cs) := by
  have body : jsonUnitsBody (ofChars cs) = ofChars (cs.flatMap jsonChar) := by
    induction cs with
    | nil => rfl
    | cons c cs ih =>
      rw [ofChars, List.flatMap_cons, jsonUnitsBody_ofChar_append, ih, List.flatMap_cons]
      exact List.flatMap_append.symm
  rw [jsonUnits, body, jsonString]
  simp [ofChar]

/-- A comma stands between the first text and the others. -/
theorem commaSeparated_cons (cs ds : List Char) (rest : List (List Char)) :
    commaSeparated (cs :: ds :: rest) = cs ++ ',' :: commaSeparated (ds :: rest) := rfl

/-- Literals separated by commas, as texts and as script texts. -/
theorem join_ofChars (texts : List (List Char)) :
    Units.join (ofString ",") (texts.map ofChars) = ofChars (commaSeparated texts) := by
  induction texts with
  | nil => rfl
  | cons cs rest ih =>
    cases rest with
    | nil => rfl
    | cons ds rest =>
      have split : Units.join (ofString ",") ((cs :: ds :: rest).map ofChars) =
          ofChars cs ++ ofString "," ++ Units.join (ofString ",") ((ds :: rest).map ofChars) := rfl
      rw [split, ih, commaSeparated_cons]
      simp [ofString]

/-- A visible character of one byte. -/
def IsVisible (c : Char) : Prop := 0x20 ≤ c.toNat ∧ c.toNat < 0x7F

instance (c : Char) : Decidable (IsVisible c) := inferInstanceAs (Decidable (_ ∧ _))

/-- A hexadecimal digit is visible. -/
theorem visible_hexDigit (n : Nat) : IsVisible (hexDigit (n % 16)) := by
  have every : ∀ k < 16, IsVisible (hexDigit k) := by decide
  exact every _ (Nat.mod_lt _ (by decide))

/-- An escape consists of visible characters. -/
theorem visible_of_mem_jsonEscape {n : Nat} {cs : List Char} (escaped : jsonEscape n = some cs) :
    ∀ c ∈ cs, IsVisible c := by
  have digits : ∀ c ∈ '\\' :: 'u' :: hex4 n, IsVisible c := by
    simp only [hex4, List.forall_mem_cons]
    exact ⟨by decide, by decide, visible_hexDigit _, visible_hexDigit _, visible_hexDigit _,
      visible_hexDigit _, List.forall_mem_nil _⟩
  have short : ∀ {letter : Char}, IsVisible letter → ∀ c ∈ ['\\', letter], IsVisible c := by
    intro letter visible
    simp only [List.forall_mem_cons]
    exact ⟨by decide, visible, List.forall_mem_nil _⟩
  unfold jsonEscape at escaped
  repeat' split at escaped
  all_goals cases escaped
  all_goals first | exact digits | exact short (by decide)

/-- What is written for a character is visible, but for the character itself, which has no control
number then. -/
theorem of_mem_jsonChar {c d : Char} (mem : d ∈ jsonChar c) :
    IsVisible d ∨ (d = c ∧ 0x20 ≤ d.toNat) := by
  rw [jsonChar] at mem
  cases escaped : jsonEscape c.toNat with
  | some cs =>
    rw [escaped] at mem
    exact .inl (visible_of_mem_jsonEscape escaped d mem)
  | none =>
    rw [escaped] at mem
    obtain rfl := List.mem_singleton.1 mem
    refine .inr ⟨rfl, ?_⟩
    unfold jsonEscape at escaped
    repeat' split at escaped
    all_goals first | omega | cases escaped

/-- What is in a list between commas is a comma or in one of the texts. -/
theorem of_mem_commaSeparated {lists : List (List Char)} {c : Char}
    (mem : c ∈ commaSeparated lists) : c = ',' ∨ ∃ cs ∈ lists, c ∈ cs := by
  induction lists with
  | nil => exact nomatch mem
  | cons cs rest ih =>
    cases rest with
    | nil => exact .inr ⟨cs, List.mem_cons_self, mem⟩
    | cons ds rest =>
      rw [commaSeparated_cons, List.mem_append, List.mem_cons] at mem
      rcases mem with mem | rfl | mem
      · exact .inr ⟨cs, List.mem_cons_self, mem⟩
      · exact .inl rfl
      · exact (ih mem).imp_right fun ⟨es, given, mem⟩ => ⟨es, List.mem_cons_of_mem _ given, mem⟩

/-- The characters of an array of literals: visible ones, and those of the texts that have no
control number. -/
theorem of_mem_jsonStrings {texts : List (List Char)} {c : Char} (mem : c ∈ jsonStrings texts) :
    IsVisible c ∨ (0x20 ≤ c.toNat ∧ ∃ text ∈ texts, c ∈ text) := by
  simp only [jsonStrings, List.mem_cons, List.mem_append, List.not_mem_nil, or_false] at mem
  rcases mem with rfl | separated | rfl
  · exact .inl (by decide)
  · rcases of_mem_commaSeparated separated with rfl | ⟨literal, given, mem⟩
    · exact .inl (by decide)
    · obtain ⟨text, here, rfl⟩ := List.mem_map.1 given
      simp only [jsonString, List.mem_cons, List.mem_append, List.mem_flatMap, List.not_mem_nil,
        or_false] at mem
      rcases mem with rfl | ⟨d, hd, mem⟩ | rfl
      · exact .inl (by decide)
      · rcases of_mem_jsonChar mem with visible | ⟨rfl, above⟩
        · exact .inl visible
        · exact .inr ⟨above, text, here, hd⟩
      · exact .inl (by decide)
  · exact .inl (by decide)

/-- An array of literals is one line. -/
theorem newline_notMem_jsonStrings (texts : List (List Char)) : '\n' ∉ jsonStrings texts := by
  intro mem
  rcases of_mem_jsonStrings mem with visible | ⟨above, -⟩
  · exact absurd visible (by decide)
  · exact absurd above (by decide)

end DecompilerBridge.Text
