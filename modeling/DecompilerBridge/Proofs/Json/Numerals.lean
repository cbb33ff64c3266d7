import DecompilerBridge.Proofs.Json.Grammar

/-!
# Numerals

The digits of a natural number are its only numeral without a sign, a fraction or an exponent
(`toDigits_decimal`), because a numeral has no zero in front of other digits.

The scanner takes a numeral apart the same way. It collects the digits of the integer part as long
as their number fits (`scanDigits_append`), and what follows them decides what kind of number it is
(`scanAfterWhole_ends`, `scanAfterWhole_marked`). So a numeral is scanned as a natural number
exactly if it consists of the digits of one that fits (`IsNumeral.scan_natural_iff`).
-/

set_option autoImplicit false

namespace DecompilerBridge.Json

/-! ## Digits -/

/-- The number that digits stand for. -/
def decimal (ds : List Char) : Nat := Nat.ofDigitChars 10 ds 0

/-- The digits are ten characters in a row. -/
theorem isDigit_iff {c : Char} : c.isDigit = true ↔ 48 ≤ c.toNat ∧ c.toNat ≤ 57 := by
  simp only [Char.isDigit, Bool.and_eq_true, decide_eq_true_eq, ge_iff_le, UInt32.le_iff_toNat_le]
  rfl

/-- A digit is written for its value. -/
theorem toDigits_digitValue {c : Char} (digit : c.isDigit = true) :
    Nat.toDigits 10 (digitValue c) = [c] := by
  have bounds := isDigit_iff.1 digit
  have every : ∀ k < 10, Nat.digitChar k = Char.ofNat (48 + k) := by decide
  have small : digitValue c < 10 := by
    rw [digitValue]
    omega
  have number : 48 + digitValue c = c.toNat := by
    rw [digitValue]
    omega
  rw [Nat.toDigits_of_lt_base small, every _ small, number, Char.ofNat_toNat]

/-- More digits make no smaller number. -/
theorem le_ofDigitChars (ds : List Char) (n : Nat) : n ≤ Nat.ofDigitChars 10 ds n := by
  induction ds generalizing n with
  | nil => exact Nat.le_refl n
  | cons c ds ih =>
    rw [Nat.ofDigitChars_cons]
    refine Nat.le_trans ?_ (ih _)
    omega

/-- The digits of a number, with more digits after them, are the digits of the longer number. -/
theorem toDigits_append {ds : List Char} (digits : ∀ c ∈ ds, c.isDigit = true) {n : Nat}
    (positive : 0 < n) : Nat.toDigits 10 n ++ ds = Nat.toDigits 10 (Nat.ofDigitChars 10 ds n) := by
  induction ds generalizing n with
  | nil => exact List.append_nil _
  | cons c ds ih =>
    obtain ⟨here, later⟩ := List.forall_mem_cons.1 digits
    have bounds := isDigit_iff.1 here
    have small : digitValue c < 10 := by
      rw [digitValue]
      omega
    have longer : Nat.toDigits 10 n ++ [c] = Nat.toDigits 10 (10 * n + digitValue c) := by
      rw [← toDigits_digitValue here, Nat.toDigits_append_toDigits (by decide) positive small]
    rw [← List.singleton_append, ← List.append_assoc, longer, ih later (by omega)]
    rfl

/-- Digits without a zero in front of others are those of their number. -/
theorem toDigits_decimal {ds : List Char} (digits : IsDigits ds)
    (plain : ds.head? = some '0' → ds = ['0']) : Nat.toDigits 10 (decimal ds) = ds := by
  obtain ⟨some, every⟩ := digits
  cases ds with
  | nil => exact absurd rfl some
  | cons c ds =>
    obtain ⟨here, later⟩ := List.forall_mem_cons.1 every
    by_cases zero : c = '0'
    · rw [plain (congrArg Option.some zero)]
      decide
    · have bounds := isDigit_iff.1 here
      have positive : 0 < digitValue c := by
        have other : c.toNat ≠ 48 := fun same => zero (Char.toNat_inj.1 same)
        rw [digitValue]
        omega
      have first := toDigits_append later positive
      rw [toDigits_digitValue here] at first
      rw [decimal, Nat.ofDigitChars_cons, Nat.mul_zero, Nat.zero_add]
      exact first.symm

/-- Digits without a leading zero are those of the number that they spell. -/
theorem eq_toDigits_iff {ds : List Char} (digits : IsDigits ds)
    (plain : ds.head? = some '0' → ds = ['0']) {n : Nat} :
    ds = Nat.toDigits 10 n ↔ decimal ds = n := by
  constructor
  · rintro rfl
    exact Nat.ofDigitChars_ten_toDigits
  · rintro rfl
    exact (toDigits_decimal digits plain).symm

/-! ## Scanning -/

/-- Once a digit is dropped, so are all that follow. -/
theorem scanDigits_dropped {ds rest : List Char} (digits : ∀ c ∈ ds, c.isDigit = true)
    (ends : ∀ c ∈ rest.head?, c.isDigit = false) (value : Nat) {dropped : Nat}
    (some : dropped ≠ 0) :
    scanDigits value dropped (ds ++ rest) = ((value, dropped + ds.length), rest) := by
  induction ds generalizing dropped with
  | nil =>
    cases rest with
    | nil => rfl
    | cons c rest =>
      rw [List.nil_append, scanDigits, if_neg (by simp [ends c rfl])]
      rfl
  | cons c ds ih =>
    obtain ⟨here, later⟩ := List.forall_mem_cons.1 digits
    rw [List.cons_append, scanDigits, if_pos here, if_neg (by simp [some]),
      ih later (Nat.succ_ne_zero dropped), List.length_cons]
    congr 2
    omega

/-- Digits are collected as long as their number fits. -/
theorem scanDigits_append {ds rest : List Char} (digits : ∀ c ∈ ds, c.isDigit = true)
    (ends : ∀ c ∈ rest.head?, c.isDigit = false) {value : Nat} (fits : value ≤ greatestWord) :
    ∃ whole dropped, scanDigits value 0 (ds ++ rest) = ((whole, dropped), rest) ∧
      (dropped = 0 ↔ Nat.ofDigitChars 10 ds value ≤ greatestWord) ∧
      (dropped = 0 → whole = Nat.ofDigitChars 10 ds value) := by
  induction ds generalizing value with
  | nil =>
    refine ⟨value, 0, ?_, by simpa using fits, fun _ => Nat.ofDigitChars_nil.symm⟩
    cases rest with
    | nil => rfl
    | cons c rest => rw [List.nil_append, scanDigits, if_neg (by simp [ends c rfl])]
  | cons c ds ih =>
    obtain ⟨here, later⟩ := List.forall_mem_cons.1 digits
    have longer : Nat.ofDigitChars 10 (c :: ds) value =
        Nat.ofDigitChars 10 ds (value * 10 + digitValue c) := by
      rw [Nat.ofDigitChars_cons, Nat.mul_comm 10 value]
      rfl
    rw [longer, List.cons_append, scanDigits, if_pos here]
    by_cases still : value * 10 + digitValue c ≤ greatestWord
    · rw [if_pos (by simp [still])]
      exact ih later still
    · rw [if_neg (by simp [still]), scanDigits_dropped later ends value (by decide)]
      have beyond := le_ofDigitChars ds (value * 10 + digitValue c)
      refine ⟨value, _, rfl, ?_, ?_⟩ <;> omega

/-- A literal without fraction and exponent is a natural number if it has no sign and no digit was
dropped. -/
theorem wholeLiteral_natural_iff {negative : Bool} {value dropped n : Nat} :
    wholeLiteral negative value dropped = .ok (.natural n) ↔
      negative = false ∧ dropped = 0 ∧ value = n := by
  -- every other way out gives a float or a negative number, or fails
  have noFloat : ∀ x : Except Fault Number, Literal.float <$> x ≠ .ok (.natural n) := by
    rintro (e | x) made <;> cases made
  unfold wholeLiteral
  split
  · next some => simp [noFloat, some]
  · next none =>
    have none : dropped = 0 := Nat.eq_zero_of_not_pos (mt Nat.ne_of_gt none)
    cases negative
    · simp [none]
    · simp only [Bool.not_true, Bool.false_eq_true, if_false]
      split
      · simp [noFloat]
      · simp

/-- What follows a numeral without making it longer. -/
def EndsNumeral (rest : List Char) : Prop :=
  ∀ c ∈ rest.head?, c.isDigit = false ∧ c ∉ ['.', 'e', 'E']

/-- A numeral ends at a gap in front of a comma or a brace. -/
theorem Gap.endsNumeral {gap : List Char} (blank : Gap gap) {c : Char} (mark : c ∈ [',', '\x7d'])
    (rest : List Char) : EndsNumeral (gap ++ c :: rest) := by
  have every : ∀ c ∈ [' ', '\t', '\n', '\r'] ++ [',', '\x7d'],
      c.isDigit = false ∧ c ∉ ['.', 'e', 'E'] := by
    simp
  cases gap with
  | nil =>
    rintro _ ⟨⟩
    exact every c (List.mem_append_right _ mark)
  | cons b gap =>
    rintro _ ⟨⟩
    exact every b (List.mem_append_left _ (blank b List.mem_cons_self))

/-- A number with a fraction or an exponent is not scanned as a natural number. -/
theorem scanAfterWhole_marked {mark : Char} (marked : mark ∈ ['.', 'e', 'E']) (negative : Bool)
    (value dropped : Nat) (cs : List Char) (n : Nat) (rest : List Char) :
    scanAfterWhole negative value dropped (mark :: cs) ≠ .ok (.natural n, rest) := by
  simp only [List.mem_cons, List.not_mem_nil, or_false] at marked
  rcases marked with rfl | rfl | rfl
  · cases cs with
    | nil => simp [scanAfterWhole]
    | cons c cs =>
      rw [scanAfterWhole]
      split
      · split <;> simp
      · simp
  · rw [scanAfterWhole]
    split <;> simp
  · rw [scanAfterWhole]
    split <;> simp

/-- With nothing left of the numeral, what has been read so far decides. -/
theorem scanAfterWhole_ends {rest : List Char} (ends : EndsNumeral rest) (negative : Bool)
    (value dropped n : Nat) (after : List Char) :
    scanAfterWhole negative value dropped rest = .ok (.natural n, after) ↔
      wholeLiteral negative value dropped = .ok (.natural n) ∧ after = rest := by
  have unmarked : ∀ mark ∈ ['.', 'e', 'E'], ∀ cs, rest ≠ mark :: cs := by
    rintro mark marked cs rfl
    exact (ends mark rfl).2 marked
  unfold scanAfterWhole
  split
  · exact absurd rfl (unmarked '.' (by decide) _)
  · exact absurd rfl (unmarked 'e' (by decide) _)
  · exact absurd rfl (unmarked 'E' (by decide) _)
  · cases wholeLiteral negative value dropped with
    | error e => simp
    | ok x => simp [eq_comm (a := rest)]

/-- The integer part of a number is read to its end. -/
theorem scanUnsigned_append {whole tail : List Char} (digits : IsDigits whole)
    (plain : whole.head? = some '0' → whole = ['0']) (ends : ∀ c ∈ tail.head?, c.isDigit = false)
    (negative : Bool) :
    ∃ value dropped, scanUnsigned negative (whole ++ tail) =
        scanAfterWhole negative value dropped tail ∧
      (dropped = 0 ↔ decimal whole ≤ greatestWord) ∧ (dropped = 0 → value = decimal whole) := by
  obtain ⟨some, every⟩ := digits
  cases whole with
  | nil => exact absurd rfl some
  | cons c ds =>
    by_cases zero : c = '0'
    · -- a zero stands alone
      obtain rfl : ds = [] := (List.cons.inj (plain (congrArg Option.some zero))).2
      subst zero
      refine ⟨0, 0, ?_, by decide, by decide⟩
      cases tail with
      | nil => rfl
      | cons d tail =>
        have noDigit : ¬d.isDigit = true := by simp [ends d rfl]
        rw [List.singleton_append, scanUnsigned.eq_def]
        exact (if_pos rfl).trans (if_neg noDigit)
    · obtain ⟨value, dropped, scanned, fits, all⟩ :=
        scanDigits_append every ends (Nat.zero_le greatestWord)
      refine ⟨value, dropped, ?_, fits, all⟩
      rw [List.cons_append] at scanned ⊢
      rw [scanUnsigned.eq_def]
      dsimp only
      rw [if_neg zero, if_pos (every c List.mem_cons_self), scanned]

/-- A number without a sign, up to what follows its integer part. -/
theorem scanNumber_whole {whole : List Char} (digits : IsDigits whole) (tail : List Char) :
    scanNumber (whole ++ tail) = scanUnsigned false (whole ++ tail) := by
  obtain ⟨some, every⟩ := digits
  cases whole with
  | nil => exact absurd rfl some
  | cons c ds =>
    have unsigned : c ≠ '-' := by
      rintro rfl
      exact absurd (every '-' List.mem_cons_self) (by decide)
    rw [List.cons_append, scanNumber]
    simpa using unsigned

/-- The marks of a fraction and an exponent are no digits. -/
theorem isDigit_of_mark {mark : Char} (marked : mark ∈ ['.', 'e', 'E']) : mark.isDigit = false := by
  simp only [List.mem_cons, List.not_mem_nil, or_false] at marked
  rcases marked with rfl | rfl | rfl <;> rfl

/-- What follows the integer part of a number: nothing, or something that starts with a mark. -/
def IsScale (marks : List Char) : Prop :=
  marks = [] ∨ ∃ mark ∈ ['.', 'e', 'E'], ∃ cs, marks = mark :: cs

/-- A number is natural if it has no sign and nothing follows its integer part, which fits. -/
theorem scanUnsigned_natural_iff {whole marks rest : List Char} (digits : IsDigits whole)
    (plain : whole.head? = some '0' → whole = ['0']) (scale : IsScale marks)
    (ends : EndsNumeral rest) {negative : Bool} {n : Nat} {after : List Char} :
    scanUnsigned negative (whole ++ (marks ++ rest)) = .ok (.natural n, after) ↔
      negative = false ∧ marks = [] ∧ (whole = Nat.toDigits 10 n ∧ n ≤ greatestWord) ∧
        after = rest := by
  have endsDigits : ∀ c ∈ (marks ++ rest).head?, c.isDigit = false := by
    rcases scale with rfl | ⟨mark, marked, cs, rfl⟩
    · exact fun c mem => (ends c mem).1
    · rintro c ⟨⟩
      exact isDigit_of_mark marked
  obtain ⟨value, dropped, scanned, fits, all⟩ :=
    scanUnsigned_append digits plain endsDigits negative
  rw [scanned, eq_toDigits_iff digits plain]
  rcases scale with rfl | ⟨mark, marked, cs, rfl⟩
  · rw [List.nil_append, scanAfterWhole_ends ends, wholeLiteral_natural_iff]
    constructor
    · rintro ⟨⟨unsigned, none, rfl⟩, same⟩
      exact ⟨unsigned, rfl, ⟨(all none).symm, all none ▸ fits.1 none⟩, same⟩
    · rintro ⟨unsigned, -, ⟨rfl, small⟩, same⟩
      exact ⟨⟨unsigned, fits.2 small, all (fits.2 small)⟩, same⟩
  · have never := scanAfterWhole_marked marked negative value dropped (cs ++ rest) n after
    exact ⟨fun made => absurd made never, fun ⟨_, gone, _⟩ => nomatch gone⟩

/-- A numeral is scanned as a natural number exactly if it consists of the digits of one that fits
into 64 bits. -/
theorem IsNumeral.scan_natural_iff {cs rest : List Char} (numeral : IsNumeral cs)
    (ends : EndsNumeral rest) {n : Nat} {after : List Char} :
    scanNumber (cs ++ rest) = .ok (.natural n, after) ↔
      (cs = Nat.toDigits 10 n ∧ n ≤ greatestWord) ∧ after = rest := by
  obtain @⟨sign, whole, fraction, exponent, signed, digits, plain, fractional, exponential⟩ :=
    numeral
  have scale : IsScale (fraction ++ exponent) := by
    rcases fractional with rfl | ⟨ds, -, rfl⟩
    · rcases exponential with rfl | ⟨mark, sign, ds, marked, -, -, rfl⟩
      · exact .inl rfl
      · exact .inr ⟨mark, List.mem_cons_of_mem _ marked, sign ++ ds, rfl⟩
    · exact .inr ⟨'.', by decide, ds ++ exponent, rfl⟩
  -- the digits of a natural number are digits throughout
  have onlyDigits : ∀ {ds : List Char}, ds = Nat.toDigits 10 n → ∀ c ∈ ds, c.isDigit = true := by
    rintro _ rfl c mem
    exact Nat.isDigit_of_mem_toDigits (by decide) (by decide) mem
  rcases signed with rfl | rfl
  · rw [List.nil_append, List.append_assoc, scanNumber_whole digits,
      scanUnsigned_natural_iff digits plain scale ends]
    constructor
    · rintro ⟨-, bare, number, same⟩
      rw [bare, List.append_nil]
      exact ⟨number, same⟩
    · rintro ⟨⟨number, small⟩, same⟩
      have bare : fraction ++ exponent = [] := by
        rcases scale with bare | ⟨mark, marked, cs, some⟩
        · exact bare
        · have digit := onlyDigits number mark (by simp [some])
          rw [isDigit_of_mark marked] at digit
          cases digit
      rw [bare, List.append_nil] at number
      exact ⟨rfl, bare, ⟨number, small⟩, same⟩
  · have scanned : scanNumber (['-'] ++ (whole ++ (fraction ++ exponent)) ++ rest) =
        scanUnsigned true (whole ++ (fraction ++ exponent ++ rest)) := by
      rw [List.append_assoc, List.append_assoc]
      rfl
    rw [scanned, scanUnsigned_natural_iff digits plain scale ends]
    constructor
    · rintro ⟨signed, -⟩
      cases signed
    · rintro ⟨⟨number, -⟩, -⟩
      exact absurd (onlyDigits number '-' List.mem_cons_self) (by decide)

end DecompilerBridge.Json
