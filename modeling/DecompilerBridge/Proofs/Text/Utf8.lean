import DecompilerBridge.Text.Lossy

/-!
# Valid UTF-8 is read back

The bytes of a text are read as that text, whatever bytes follow (`decode_encodeChars_append`), and
bytes that spell a text throughout are recognised (`ofValidBytes?_utf8`).

A character has one to four bytes. The lead byte fixes how many follow and between which bounds the
second one lies; `begin_two`, `begin_three` and `begin_four` say that the bounds admit the second
byte of every character, and each later byte adds its six bits (`decodeFrom_inside`,
`decodeFrom_last`).

The order of texts, character by character, is the order of their bytes (`utf8_lt_utf8`).
-/

set_option autoImplicit false

namespace DecompilerBridge.Text

/-! ## Single bytes -/

/-- A byte made from a number below 256 is that number. -/
theorem toNat_ofNat_byte {n : Nat} (small : n < 256) : (UInt8.ofNat n).toNat = n := by
  simp [Nat.mod_eq_of_lt small]

/-- Six bits make a continuation byte. -/
theorem within_tail (n : Nat) : within 0x80 0xBF (UInt8.ofNat (n % 64 + 128)) = true := by
  have small : n % 64 + 128 < 256 := by omega
  simp only [within, toNat_ofNat_byte small]
  simp
  omega

/-- A continuation byte gives back its six bits. -/
theorem payload_tail (n : Nat) : payload (UInt8.ofNat (n % 64 + 128)) = n % 64 := by
  have small : n % 64 + 128 < 256 := by omega
  simp only [payload, toNat_ofNat_byte small]
  omega

/-- The lead byte of a character of two bytes. -/
theorem begin_two {v : Nat} (above : 0x7F < v) (below : v ≤ 0x7FF) :
    begin (UInt8.ofNat (v / 64 % 32 + 192)) = ([], .inside 0 (v / 64) 0x80 0xBF) := by
  have lead : v / 64 % 32 + 192 < 256 := by omega
  simp only [begin, toNat_ofNat_byte lead]
  rw [if_neg (by omega), if_neg (by omega), if_pos (by omega)]
  congr 2
  omega

/-- The lead byte of a character of three bytes, and the bounds that it sets for the second. -/
theorem begin_three {v : Nat} (above : 0x7FF < v) (below : v ≤ 0xFFFF)
    (valid : v < 0xD800 ∨ 0xDFFF < v) :
    ∃ low high, begin (UInt8.ofNat (v / 4096 % 16 + 224)) = ([], .inside 1 (v / 4096) low high) ∧
      within low high (UInt8.ofNat (v / 64 % 64 + 128)) = true := by
  have lead : v / 4096 % 16 + 224 < 256 := by omega
  have second : v / 64 % 64 + 128 < 256 := by omega
  simp only [begin, within, toNat_ofNat_byte lead, toNat_ofNat_byte second]
  rw [if_neg (by omega), if_neg (by omega), if_neg (by omega)]
  -- The bounds differ after the leads 0xE0 (overlong forms) and 0xED (surrogates).
  split
  · exact ⟨_, _, by congr 2; omega, by simp; omega⟩
  · split
    · exact ⟨_, _, by congr 2; omega, by simp; omega⟩
    · rw [if_pos (by omega)]
      exact ⟨_, _, by congr 2; omega, by simp; omega⟩

/-- The lead byte of a character of four bytes, and the bounds that it sets for the second. -/
theorem begin_four {v : Nat} (above : 0xFFFF < v) (below : v ≤ 0x10FFFF) :
    ∃ low high, begin (UInt8.ofNat (v / 262144 % 8 + 240)) =
        ([], .inside 2 (v / 262144) low high) ∧
      within low high (UInt8.ofNat (v / 4096 % 64 + 128)) = true := by
  have lead : v / 262144 % 8 + 240 < 256 := by omega
  have second : v / 4096 % 64 + 128 < 256 := by omega
  simp only [begin, within, toNat_ofNat_byte lead, toNat_ofNat_byte second]
  rw [if_neg (by omega), if_neg (by omega), if_neg (by omega), if_neg (by omega),
    if_neg (by omega), if_neg (by omega)]
  -- The bounds differ after the leads 0xF0 (overlong forms) and 0xF4 (values that are too large).
  split
  · exact ⟨_, _, by congr 2; omega, by simp; omega⟩
  · split
    · exact ⟨_, _, by congr 2; omega, by simp; omega⟩
    · rw [if_pos (by omega)]
      exact ⟨_, _, by congr 2; omega, by simp; omega⟩

/-! ## Characters -/

/-- The first byte is read, and then the others. -/
theorem decodeFrom_cons (s : Utf8State) (b : UInt8) (r : List UInt8) :
    decodeFrom s (b :: r) = (advance s b).1 ++ decodeFrom (advance s b).2 r := by
  cases s <;> rfl

/-- A lead byte only opens a character. -/
theorem decodeFrom_begin {b : UInt8} {s : Utf8State} (lead : begin b = ([], s)) (r : List UInt8) :
    decodeFrom .between (b :: r) = decodeFrom s r := by
  rw [decodeFrom_cons, advance, lead, List.nil_append]

/-- A continuation byte adds its six bits to a character that needs more bytes. -/
theorem decodeFrom_inside {missing bits low high n : Nat} (r : List UInt8)
    (admitted : within low high (UInt8.ofNat (n % 64 + 128)) = true) :
    decodeFrom (.inside (missing + 1) bits low high) (UInt8.ofNat (n % 64 + 128) :: r) =
      decodeFrom (.inside missing (bits * 64 + n % 64) 0x80 0xBF) r := by
  rw [decodeFrom_cons, advance, if_pos admitted, payload_tail]
  rfl

/-- The last continuation byte completes a character. -/
theorem decodeFrom_last {bits low high n : Nat} (r : List UInt8)
    (admitted : within low high (UInt8.ofNat (n % 64 + 128)) = true) :
    decodeFrom (.inside 0 bits low high) (UInt8.ofNat (n % 64 + 128) :: r) =
      Char.ofNat (bits * 64 + n % 64) :: decodeFrom .between r := by
  rw [decodeFrom_cons, advance, if_pos admitted, payload_tail]
  rfl

/-- The bytes of a character are read as that character, whatever follows. -/
theorem decodeFrom_encodeChar (c : Char) (r : List UInt8) :
    decodeFrom .between (String.utf8EncodeChar c ++ r) = c :: decodeFrom .between r := by
  have value : c.val.toNat = c.toNat := rfl
  have whole : ∀ n, n = c.toNat → Char.ofNat n = c := fun n h => h ▸ Char.ofNat_toNat c
  have valid : c.toNat < 0xD800 ∨ 0xDFFF < c.toNat ∧ c.toNat < 0x110000 := c.valid
  simp only [String.utf8EncodeChar, value]
  generalize c.toNat = v at whole valid ⊢
  split
  · have small : v < 256 := by omega
    have ascii : begin (UInt8.ofNat v) = ([Char.ofNat v], .between) := by
      simp only [begin, toNat_ofNat_byte small]
      rw [if_pos (by omega)]
    simp [decodeFrom_cons, advance, ascii, whole v rfl]
  · split
    · simp only [List.cons_append, List.nil_append]
      rw [decodeFrom_begin (begin_two (by omega) (by omega)),
        decodeFrom_last _ (within_tail v), whole _ (by omega)]
    · split
      · obtain ⟨low, high, lead, admitted⟩ := begin_three (v := v) (by omega) (by omega) (by omega)
        simp only [List.cons_append, List.nil_append]
        rw [decodeFrom_begin lead, decodeFrom_inside _ admitted, decodeFrom_last _ (within_tail v),
          whole _ (by omega)]
      · obtain ⟨low, high, lead, admitted⟩ := begin_four (v := v) (by omega) (by omega)
        simp only [List.cons_append, List.nil_append]
        rw [decodeFrom_begin lead, decodeFrom_inside _ admitted,
          decodeFrom_inside _ (within_tail (v / 64)), decodeFrom_last _ (within_tail v),
          whole _ (by omega)]

/-- A byte below 128 is all there is of its character. -/
theorem toNat_of_mem_encodeChar {c : Char} {b : UInt8} (mem : b ∈ String.utf8EncodeChar c)
    (low : b.toNat < 128) : b.toNat = c.toNat := by
  have value : c.val.toNat = c.toNat := rfl
  simp only [String.utf8EncodeChar, value] at mem
  generalize c.toNat = v at mem ⊢
  split at mem
  · rw [List.mem_singleton.1 mem, toNat_ofNat_byte (by omega)]
  · -- Every byte of a longer character has its highest bit set.
    have high : 128 ≤ b.toNat := by
      split at mem
      · simp only [List.mem_cons, List.not_mem_nil, or_false] at mem
        rcases mem with rfl | rfl <;> rw [toNat_ofNat_byte (by omega)] <;> omega
      · split at mem
        · simp only [List.mem_cons, List.not_mem_nil, or_false] at mem
          rcases mem with rfl | rfl | rfl <;> rw [toNat_ofNat_byte (by omega)] <;> omega
        · simp only [List.mem_cons, List.not_mem_nil, or_false] at mem
          rcases mem with rfl | rfl | rfl | rfl <;> rw [toNat_ofNat_byte (by omega)] <;> omega
    omega

/-- A character other than NUL has no zero byte. -/
theorem ne_zero_of_mem_encodeChar {c : Char} {b : UInt8} (mem : b ∈ String.utf8EncodeChar c)
    (visible : c.toNat ≠ 0) : b ≠ 0 := by
  rintro rfl
  exact visible (toNat_of_mem_encodeChar mem (by decide)).symm

/-! ## Texts -/

/-- The bytes of two texts follow one another. -/
theorem utf8_append (s t : String) : utf8 (s ++ t) = utf8 s ++ utf8 t := by
  simp [utf8, encodeChars]

/-- The bytes of a text as the runtime keeps them are those of its characters. -/
theorem toUTF8_toList (s : String) : s.toUTF8.data.toList = utf8 s := by
  have bytes : s.toUTF8 = s.toList.utf8Encode := String.utf8Encode_toList.symm
  rw [bytes, List.utf8Encode, List.data_toByteArray, List.toList_toArray]
  rfl

/-- The bytes of characters are read as these characters, whatever bytes follow. -/
theorem decode_encodeChars_append (cs : List Char) (bytes : List UInt8) :
    decode (encodeChars cs ++ bytes) = cs ++ decode bytes := by
  induction cs with
  | nil => rfl
  | cons c rest ih =>
    simp only [encodeChars, List.flatMap_cons, List.append_assoc, decode] at ih ⊢
    rw [decodeFrom_encodeChar, ih, List.cons_append]

/-- The bytes of a text are read as its characters. -/
theorem decode_utf8 (s : String) : decode (utf8 s) = s.toList := by
  have read := decode_encodeChars_append s.toList []
  rw [List.append_nil] at read
  rw [utf8, read, show decode [] = [] from rfl, List.append_nil]

/-- The bytes of a text are read as that text. -/
theorem ofBytes_utf8 (s : String) : ofBytes (utf8 s) = s := by
  rw [ofBytes, decode_utf8, String.ofList_toList]

/-- The characters of a text can be read off its bytes. -/
theorem chars_eq_toList (s : String) : chars s = s.toList := by
  rw [chars, toUTF8_toList, decode_utf8]

/-- The bytes of a text are valid throughout. -/
theorem ofValidBytes?_utf8 (s : String) : ofValidBytes? (utf8 s) = some s := by
  rw [ofValidBytes?, ofBytes_utf8, if_pos rfl]

/-! ## Order -/

/-- Bytes are compared by the first of them, and by the others if that is equal. -/
theorem cons_lt_cons {m n : Nat} {r r' : List UInt8} (small : n < 256) (first : m ≤ n)
    (others : m = n → r < r') : UInt8.ofNat m :: r < UInt8.ofNat n :: r' := by
  rw [List.cons_lt_cons_iff]
  by_cases same : m = n
  · exact .inr ⟨by rw [same], others same⟩
  · have less : m < n := by omega
    refine .inl ?_
    rw [UInt8.lt_iff_toNat_lt, toNat_ofNat_byte small, toNat_ofNat_byte (by omega)]
    exact less

/-- A smaller character has smaller bytes, whatever follows. -/
theorem encodeChar_append_lt {c d : Char} (less : c < d) (r r' : List UInt8) :
    String.utf8EncodeChar c ++ r < String.utf8EncodeChar d ++ r' := by
  have values : c.val.toNat < d.val.toNat := less
  have bound : d.val.toNat < 0x110000 := by
    have valid : d.toNat < 0xD800 ∨ 0xDFFF < d.toNat ∧ d.toNat < 0x110000 := d.valid
    show d.toNat < 0x110000
    omega
  simp only [String.utf8EncodeChar]
  generalize c.val.toNat = v at values ⊢
  generalize d.val.toNat = u at values bound ⊢
  -- A longer character has a greater lead, and of two that are equally long the first byte in
  -- which they differ decides.
  by_cases one : v ≤ 0x7F
  · have lead : ∀ {n : Nat} {rest : List UInt8}, n < 256 → v < n →
        [UInt8.ofNat v] ++ r < UInt8.ofNat n :: rest :=
      fun small lt => cons_lt_cons small (by omega) fun same => by omega
    rw [if_pos one]
    split
    · exact lead (by omega) values
    · split
      · exact lead (by omega) (by omega)
      · split
        · exact lead (by omega) (by omega)
        · exact lead (by omega) (by omega)
  · rw [if_neg one, if_neg (by omega : ¬ u ≤ 0x7F)]
    by_cases two : v ≤ 0x7FF
    · rw [if_pos two]
      split
      · exact cons_lt_cons (by omega) (by omega) fun _ =>
          cons_lt_cons (by omega) (by omega) fun _ => by omega
      · split
        · exact cons_lt_cons (by omega) (by omega) fun _ => by omega
        · exact cons_lt_cons (by omega) (by omega) fun _ => by omega
    · rw [if_neg two, if_neg (by omega : ¬ u ≤ 0x7FF)]
      by_cases three : v ≤ 0xFFFF
      · rw [if_pos three]
        split
        · exact cons_lt_cons (by omega) (by omega) fun _ =>
            cons_lt_cons (by omega) (by omega) fun _ =>
              cons_lt_cons (by omega) (by omega) fun _ => by omega
        · exact cons_lt_cons (by omega) (by omega) fun _ => by omega
      · rw [if_neg three, if_neg (by omega : ¬ u ≤ 0xFFFF)]
        exact cons_lt_cons (by omega) (by omega) fun _ =>
          cons_lt_cons (by omega) (by omega) fun _ =>
            cons_lt_cons (by omega) (by omega) fun _ =>
              cons_lt_cons (by omega) (by omega) fun _ => by omega

/-- Texts are ordered as their bytes are. -/
theorem utf8_lt_utf8 {s t : String} (less : s < t) : utf8 s < utf8 t := by
  rw [String.lt_iff] at less
  unfold utf8
  generalize s.toList = cs at less ⊢
  generalize t.toList = ds at less ⊢
  induction less with
  | @nil d ds =>
    have lead : encodeChars (d :: ds) ≠ [] := by
      simp [encodeChars, List.flatMap_cons, String.utf8EncodeChar_ne_nil]
    cases spelled : encodeChars (d :: ds) with
    | nil => exact absurd spelled lead
    | cons b rest => exact .nil
  | @rel c cs d ds before =>
    simp only [encodeChars, List.flatMap_cons]
    exact encodeChar_append_lt before _ _
  | @cons c cs ds _ ih =>
    simp only [encodeChars, List.flatMap_cons] at ih ⊢
    exact List.append_left_lt ih

end DecompilerBridge.Text
