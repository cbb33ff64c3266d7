import DecompilerBridge.Proofs.Text.Utf8

/-!
# Bytes of any kind

What is read from bytes that may be no UTF-8. A decoder that stands inside a character waits for
continuation bytes only, and whichever they are, the character will be a scalar value outside ASCII
(`Utf8State.Sound`). So a byte does one of two things (`Utf8State.Sound.advance_cases`): it
continues a character, and then neither the byte nor what it completes is ASCII; or what was begun
is given up and the byte is read as if it were the first.

It follows that ASCII bytes are neither lost nor made up (`decode_ascii`), and that whole characters
are read wherever they stand (`decode_around`): their first byte ends whatever was begun before.
-/

set_option autoImplicit false

namespace DecompilerBridge.Text

/-! ## Steps of a decoder -/

/-- The leading bits of a value: some groups of six bits at its end are dropped. -/
def leadingBits (v : Nat) : Nat → Nat
  | 0 => v
  | groups + 1 => leadingBits v groups / 0x40

/-- Only continuation bytes are admitted next, and whatever value starts with the bits read so far
and those of an admitted byte, it is a scalar value outside ASCII. -/
inductive Utf8State.Sound : Utf8State → Prop where
  | between : Sound .between
  | inside {missing bits low high : Nat} (low_ge : 0x80 ≤ low) (high_le : high ≤ 0xBF)
      (scalar : ∀ v, bits * 0x40 + (low - 0x80) ≤ leadingBits v missing →
        leadingBits v missing ≤ bits * 0x40 + (high - 0x80) → 0x80 ≤ v ∧ v.isValidChar) :
      Sound (.inside missing bits low high)

/-- A step that yields no ASCII character and leads to a sound state. -/
def IsForeign (step : List Char × Utf8State) : Prop :=
  step.2.Sound ∧ ∀ c ∈ step.1, 0x80 ≤ c.toNat

/-- A replacement character is foreign. -/
theorem isForeign_replacement : IsForeign ([replacement], .between) := by
  refine ⟨.between, fun c mem => ?_⟩
  rw [List.mem_singleton.1 mem]
  decide

/-- A valid code point is that of its character. -/
theorem toNat_ofNat_scalar {v : Nat} (valid : v.isValidChar) : (Char.ofNat v).toNat = v := by
  rw [Char.ofNat, dif_pos valid]
  rfl

/-- A first byte is an ASCII character, or begins or replaces one that is not. -/
theorem begin_cases (b : UInt8) :
    (b.toNat < 0x80 ∧ begin b = ([Char.ofNat b.toNat], .between)) ∨
      (0x80 ≤ b.toNat ∧ IsForeign (begin b)) := by
  simp only [begin]
  generalize b.toNat = n
  by_cases ascii : n < 0x80
  · rw [if_pos ascii]
    exact .inl ⟨ascii, rfl⟩
  refine .inr ⟨by omega, ?_⟩
  rw [if_neg ascii]
  -- every lead has bounds for the second byte that leave only scalar values open
  repeat' split
  all_goals first
    | exact isForeign_replacement
    | refine ⟨.inside (by omega) (by omega) fun v least most => ?_, by simp⟩
      simp only [leadingBits] at least most
      unfold Nat.isValidChar
      omega

/-- A byte is within bounds as its number is. -/
theorem within_iff {low high : Nat} {b : UInt8} :
    within low high b = true ↔ low ≤ b.toNat ∧ b.toNat ≤ high := by
  simp [within]

namespace Utf8State

variable {s : Utf8State}

/-- A byte gives up what was begun and is read as a first byte, or it is a continuation byte. -/
theorem Sound.advance_cases (sound : s.Sound) (b : UInt8) :
    advance s b = (decodeFrom s [] ++ (begin b).1, (begin b).2) ∨
      (0x80 ≤ b.toNat ∧ b.toNat ≤ 0xBF ∧ IsForeign (advance s b)) := by
  cases sound with
  | between => exact .inl rfl
  | @inside missing bits low high low_ge high_le scalar =>
    by_cases admitted : within low high b = true
    · obtain ⟨above, below⟩ := within_iff.1 admitted
      have six : payload b = b.toNat - 0x80 := by
        unfold payload
        omega
      refine .inr ⟨by omega, by omega, ?_⟩
      cases missing with
      | zero =>
        rw [advance, if_pos admitted, six]
        -- the character is complete, and its value is one of those that were open
        simp only [leadingBits] at scalar
        obtain ⟨foreign, valid⟩ := scalar (bits * 0x40 + (b.toNat - 0x80)) (by omega) (by omega)
        refine ⟨.between, fun c mem => ?_⟩
        rw [List.mem_singleton.1 mem, toNat_ofNat_scalar valid]
        exact foreign
      | succ missing =>
        rw [advance, if_pos admitted, six]
        refine ⟨.inside (by omega) (by omega) fun v least most => ?_, by simp⟩
        -- without the group that is waited for, the value ends with the bits of this byte
        have shorter : leadingBits v (missing + 1) = leadingBits v missing / 0x40 := rfl
        apply scalar v <;> omega
    · left
      unfold advance
      simp only [if_neg admitted]
      rfl

/-- A sound decoder stays sound. -/
theorem Sound.advance (sound : s.Sound) (b : UInt8) : (advance s b).2.Sound := by
  rcases sound.advance_cases b with restart | ⟨-, -, next, -⟩
  · rw [restart]
    rcases begin_cases b with ⟨-, read⟩ | ⟨-, next, -⟩
    · rw [read]
      exact .between
    · exact next
  · exact next

end Utf8State

/-! ## ASCII -/

/-- The characters of the ASCII bytes among some bytes. -/
def asciiChars (bytes : List UInt8) : List Char :=
  (bytes.filter (·.toNat < 0x80)).map fun b => Char.ofNat b.toNat

/-- ASCII bytes are read one after the other. -/
theorem asciiChars_cons (b : UInt8) (bytes : List UInt8) :
    asciiChars (b :: bytes) = asciiChars [b] ++ asciiChars bytes := by
  simp only [asciiChars, List.filter_cons, List.filter_nil]
  split <;> rfl

/-- An ASCII byte is a character. -/
theorem asciiChars_singleton {b : UInt8} (ascii : b.toNat < 0x80) :
    asciiChars [b] = [Char.ofNat b.toNat] := by
  simp [asciiChars, ascii]

/-- Another byte is none. -/
theorem asciiChars_foreign {b : UInt8} (foreign : 0x80 ≤ b.toNat) : asciiChars [b] = [] := by
  simp [asciiChars]
  omega

/-- Foreign characters are not ASCII. -/
theorem IsForeign.ascii {step : List Char × Utf8State} (foreign : IsForeign step) :
    step.1.filter (·.toNat < 0x80) = [] := by
  rw [List.filter_eq_nil_iff]
  intro c mem
  have above := foreign.2 c mem
  simp
  omega

/-- A byte at the beginning is its ASCII character, or begins another one. -/
theorem begin_ascii (b : UInt8) : (begin b).1.filter (·.toNat < 0x80) = asciiChars [b] := by
  rcases begin_cases b with ⟨ascii, read⟩ | ⟨above, foreign⟩
  · have scalar : b.toNat.isValidChar := .inl (by omega)
    rw [read, asciiChars_singleton ascii]
    simp [toNat_ofNat_scalar scalar, ascii]
  · rw [asciiChars_foreign above, foreign.ascii]

/-- What is given up is replaced by a character outside ASCII. -/
theorem decodeFrom_nil_ascii (s : Utf8State) :
    (decodeFrom s []).filter (·.toNat < 0x80) = [] := by
  cases s <;> rfl

/-- A byte yields the ASCII character that it is, if it is one, and no other. -/
theorem Utf8State.Sound.advance_ascii {s : Utf8State} (sound : s.Sound) (b : UInt8) :
    (Text.advance s b).1.filter (·.toNat < 0x80) = asciiChars [b] := by
  rcases sound.advance_cases b with restart | ⟨above, -, foreign⟩
  · rw [restart, List.filter_append, decodeFrom_nil_ascii, begin_ascii, List.nil_append]
  · rw [asciiChars_foreign above, foreign.ascii]

/-- Of what is decoded, the ASCII characters are those of the bytes. -/
theorem decodeFrom_ascii {s : Utf8State} (sound : s.Sound) (bytes : List UInt8) :
    (decodeFrom s bytes).filter (·.toNat < 0x80) = asciiChars bytes := by
  induction bytes generalizing s with
  | nil => exact decodeFrom_nil_ascii s
  | cons b rest ih =>
    rw [decodeFrom_cons, List.filter_append, sound.advance_ascii, ih (sound.advance b),
      ← asciiChars_cons]

/-- The ASCII characters that are read are the ASCII bytes, in order. -/
theorem decode_ascii (bytes : List UInt8) :
    (decode bytes).filter (·.toNat < 0x80) = asciiChars bytes :=
  decodeFrom_ascii .between bytes

/-! ## Whole characters among other bytes -/

/-- A byte that continues no character is read as if it were the first, whatever was read before. -/
theorem decodeFrom_append_cons {s : Utf8State} (sound : s.Sound) (before after : List UInt8)
    {b : UInt8} (first : b.toNat < 0x80 ∨ 0xBF < b.toNat) :
    decodeFrom s (before ++ b :: after) = decodeFrom s before ++ decode (b :: after) := by
  induction before generalizing s with
  | nil =>
    have restart : advance s b = (decodeFrom s [] ++ (begin b).1, (begin b).2) := by
      rcases sound.advance_cases b with restart | ⟨above, below, -⟩
      · exact restart
      · omega
    rw [List.nil_append, decode, decodeFrom_cons, decodeFrom_cons, restart, List.append_assoc]
    rfl
  | cons x more ih =>
    rw [List.cons_append, decodeFrom_cons, decodeFrom_cons, ih (sound.advance x), List.append_assoc]

/-- A character does not start with a continuation byte. -/
theorem encodeChar_first (c : Char) : ∃ b rest, String.utf8EncodeChar c = b :: rest ∧
    (b.toNat < 0x80 ∨ 0xBF < b.toNat) := by
  have valid : c.val.toNat < 0xD800 ∨ 0xDFFF < c.val.toNat ∧ c.val.toNat < 0x110000 := c.valid
  have lead : ∀ {n : Nat} (rest : List UInt8), n < 256 → n < 0x80 ∨ 0xBF < n →
      ∃ b others, UInt8.ofNat n :: rest = b :: others ∧ (b.toNat < 0x80 ∨ 0xBF < b.toNat) := by
    intro n rest small first
    refine ⟨_, _, rfl, ?_⟩
    rwa [toNat_ofNat_byte small]
  simp only [String.utf8EncodeChar]
  generalize c.val.toNat = v at valid ⊢
  split
  · apply lead <;> omega
  split
  · apply lead <;> omega
  split
  · apply lead <;> omega
  · apply lead <;> omega

/-- Characters are read wherever their bytes stand, and do not touch what is read around them. -/
theorem decode_around {cs : List Char} (some : cs ≠ []) (before after : List UInt8) :
    decode (before ++ encodeChars cs ++ after) = decode before ++ cs ++ decode after := by
  obtain ⟨c, more, rfl⟩ := List.exists_cons_of_ne_nil some
  obtain ⟨b, rest, spelled, first⟩ := encodeChar_first c
  have start : encodeChars (c :: more) ++ after = b :: (rest ++ encodeChars more ++ after) := by
    simp [encodeChars, spelled]
  rw [List.append_assoc, start, decode, decodeFrom_append_cons .between before _ first, ← start,
    decode_encodeChars_append, List.append_assoc]
  rfl

end DecompilerBridge.Text
