import DecompilerBridge.Proofs.Json.Numerals
import DecompilerBridge.Proofs.Preferences.History
import DecompilerBridge.Shell.ConfigFile

/-!
# How the values of a configuration file are read

The readers of a configuration file go through the text once and know no value but the one that they
expect. Here they are set against the grammar of JSON: where the text spells a value, a reader reads
what the value means to it, and fails if it means nothing (`Reads`). The texts of the problems do
not matter for this, so a reading is taken as an `Option`.

The two loops over the members of an object, that of the file itself and that of the preferences,
differ in what they do with a member. What a loop does with one member is all that a proof about it
has to say (`TakesMembers`); the list of members is gone through here, once (`TakesMembers.run`).
-/

set_option autoImplicit false

namespace DecompilerBridge.Shell

open Json

variable {α β : Type}

/-! ## What values mean -/

/-- The text that a value is. -/
def textOf : Written → Option String
  | .string s => some s
  | _ => none

/-- The number of seconds that a value is. -/
def secondsOf : Written → Option Nat
  | .number ds =>
    if ds = Nat.toDigits 10 (decimal ds) ∧ decimal ds ≤ greatestWord then some (decimal ds)
    else none
  | _ => none

/-- What a value is if it may be `null`. -/
def optionalOf (of : Written → Option α) : Written → Option (Option α)
  | .null => some none
  | v => (of v).map some

/-- A table with a member added that is a text. -/
def addEntry (table : Table String) (member : String × Written) : Option (Table String) :=
  (textOf member.2).map (table.insert member.1)

/-- The preferences that a value is. -/
def entriesOf : Written → Option (Table String)
  | .object members => members.foldlM addEntry []
  | _ => none

/-- Only a string means a text. -/
theorem textOf_eq_some_iff {v : Written} {s : String} : textOf v = some s ↔ v = .string s := by
  cases v <;> simp [textOf]

/-- Only a natural number in range means seconds. -/
theorem secondsOf_eq_some_iff {v : Written} {n : Nat} :
    secondsOf v = some n ↔ v = .number (Nat.toDigits 10 n) ∧ n ≤ greatestWord := by
  cases v with
  | number ds =>
    rw [secondsOf, Option.ite_none_right_eq_some, Written.number.injEq, Option.some.injEq]
    constructor
    · rintro ⟨⟨digits, small⟩, same⟩
      rw [same] at digits small
      exact ⟨digits, small⟩
    · rintro ⟨rfl, small⟩
      have number : decimal (Nat.toDigits 10 n) = n := Nat.ofDigitChars_ten_toDigits
      rw [number]
      exact ⟨⟨rfl, small⟩, rfl⟩
  | _ => simp [secondsOf]

/-- An optional value is `null` or a value. -/
theorem optionalOf_isSome_iff {of : Written → Option α} {v : Written} :
    (optionalOf of v).isSome = true ↔ v = .null ∨ ∃ a, of v = some a := by
  cases v with
  | null => simp [optionalOf]
  | _ => simp [optionalOf, Option.isSome_iff_exists]

/-- An optional text is `null` or a string. -/
theorem optional_text_isSome_iff {v : Written} :
    (optionalOf textOf v).isSome = true ↔ v = .null ∨ ∃ s, v = .string s := by
  simp only [optionalOf_isSome_iff, textOf_eq_some_iff]

/-- An optional number of seconds is `null` or a natural number in range. -/
theorem optional_seconds_isSome_iff {v : Written} :
    (optionalOf secondsOf v).isSome = true ↔
      v = .null ∨ ∃ n ≤ 0xFFFFFFFFFFFFFFFF, v = .number (Nat.toDigits 10 n) := by
  simp only [optionalOf_isSome_iff, secondsOf_eq_some_iff, greatestWord, and_comm]

/-- An optional value that means something is absent or present. -/
theorem of_optionalOf_eq_some {of : Written → Option α} {v : Written} {x : Option α}
    (read : optionalOf of v = some x) :
    (v = .null ∧ x = none) ∨ ∃ a, of v = some a ∧ x = some a := by
  cases v with
  | null => exact .inl ⟨rfl, (Option.some.inj read).symm⟩
  | _ =>
    obtain ⟨a, held, rfl⟩ := Option.map_eq_some_iff.1 read
    exact .inr ⟨a, held, rfl⟩

/-- The last value under a name. -/
def lastValue (members : List (String × Written)) (name : String) : Option Written :=
  members.reverse.lookup name

/-- Members that are all texts take the place of those of a table. -/
theorem foldlM_addEntry {members : List (String × Written)} {before table : Table String}
    (read : members.foldlM addEntry before = some table)
    (sorted : (before.map Prod.fst).Pairwise (· < ·)) :
    (table.map Prod.fst).Pairwise (· < ·) ∧ ∀ key, (table.find? key).map Written.string =
      (lastValue members key).or ((before.find? key).map .string) := by
  induction members generalizing before with
  | nil =>
    obtain rfl := Option.some.inj read
    exact ⟨sorted, fun _ => rfl⟩
  | cons m rest ih =>
    obtain ⟨name, v⟩ := m
    rw [List.foldlM_cons] at read
    obtain ⟨next, added, read⟩ := Option.bind_eq_some_iff.1 read
    obtain ⟨s, text, rfl⟩ := Option.map_eq_some_iff.1 added
    obtain rfl := textOf_eq_some_iff.1 text
    obtain ⟨sorted, found⟩ := ih read (Table.insert_sorted sorted name s)
    refine ⟨sorted, fun key => ?_⟩
    rw [found, lastValue, lastValue, List.reverse_cons, List.lookup_append, Option.or_assoc]
    congr 1
    by_cases same : key = name
    · subst same
      simp
    · have other : (key == name) = false := by simpa using same
      simp [Table.find?_insert_of_ne same, List.lookup_cons, other]

/-- Entries are all texts, or there is no table. -/
theorem foldlM_addEntry_isSome_iff {members : List (String × Written)} {before : Table String} :
    (members.foldlM addEntry before).isSome = true ↔ ∀ m ∈ members, ∃ s, m.2 = .string s := by
  induction members generalizing before with
  | nil => exact ⟨fun _ => nofun, fun _ => rfl⟩
  | cons m rest ih =>
    obtain ⟨name, v⟩ := m
    rw [List.foldlM_cons, List.forall_mem_cons, addEntry]
    cases v with
    | string s => exact ih.trans ⟨fun later => ⟨⟨s, rfl⟩, later⟩, And.right⟩
    | _ => exact ⟨nofun, fun ⟨⟨_, wrong⟩, _⟩ => nomatch wrong⟩

/-- A table is an object of texts. -/
theorem entriesOf_isSome_iff {v : Written} :
    (entriesOf v).isSome = true ↔
      ∃ entries, v = .object entries ∧ ∀ e ∈ entries, ∃ s, e.2 = .string s := by
  cases v with
  | object members =>
    simp only [entriesOf, foldlM_addEntry_isSome_iff, Written.object.injEq, exists_eq_left']
  | _ => simp [entriesOf]

/-- A table is in key order, and has the last text of every key. -/
theorem of_entriesOf_eq_some {v : Written} {table : Table String}
    (read : entriesOf v = some table) :
    (table.map Prod.fst).Pairwise (· < ·) ∧ ∃ entries, v = .object entries ∧
      ∀ key s, table.find? key = some s ↔ lastValue entries key = some (.string s) := by
  cases v with
  | object entries =>
    obtain ⟨sorted, found⟩ := foldlM_addEntry read .nil
    refine ⟨sorted, entries, rfl, fun key s => ?_⟩
    have here := found key
    rw [Table.find?_nil, Option.map_none, Option.or_none] at here
    rw [← here]
    simp
  | _ => cases read

/-! ## Reading a value -/

/-- After a success comes what follows. -/
theorem ok_bind {ε : Type} (a : α) (f : α → Except ε β) : (.ok a >>= f) = f a := rfl

/-- A success is no problem of the scanner. -/
theorem scanned_ok (a : α) : ShellConfig.scanned (.ok a) = .ok a := rfl

/-- A sequence gives a result if both of its parts do. -/
theorem toOption_bind {ε : Type} (x : Except ε α) (f : α → Except ε β) :
    (x >>= f).toOption = x.toOption.bind fun a => (f a).toOption := by
  cases x <;> rfl

/-- Nothing is read where a value is refused. -/
theorem refuse_fails (expected : Expected) (cs : List Char) :
    (ShellConfig.refuse (α := α) expected cs).toOption = none := by
  have failing : ∀ {γ : Type} (x : Except ConfigError γ) (e : γ → ConfigError),
      (x >>= fun a => (.error (e a) : Except ConfigError α)).toOption = none := by
    rintro γ (_ | _) e <;> rfl
  unfold ShellConfig.refuse
  split
  all_goals first | exact failing _ _ | rfl | skip
  split
  · exact failing _ _
  · rfl

/-- A reader reads what a value means to it, with blanks in front of the value and something behind
it that does not make a number longer. -/
def Reads (read : List Char → Except ConfigError (α × List Char)) (of : Written → Option α) :
    Prop :=
  ∀ ⦃gap cs rest : List Char⦄ ⦃v : Written⦄, Gap gap → Spells cs v → EndsNumeral rest →
    (read (gap ++ (cs ++ rest))).toOption = (of v).map fun a => (a, rest)

/-- A text is read as what it means. -/
theorem reads_text (expected : Expected) : Reads (ShellConfig.readText expected) textOf := by
  intro gap cs rest v blank spelled ends
  rw [ShellConfig.readText, spelled.skip blank]
  cases v with
  | string s =>
    cases spelled with | string literal =>
    obtain ⟨inside, whole, read⟩ := literal.scan
    rw [whole]
    show (ShellConfig.scanned (scanString (inside ++ rest))).toOption = _
    rw [read]
    rfl
  | _ =>
    split
    · next same => exact absurd same (spelled.ne_cons nofun)
    · exact refuse_fails _ _

/-- Of numbers, only natural ones are read as seconds. -/
theorem readSeconds_numeral {c : Char} (numeric : (decide (c = '-') || c.isDigit) = true)
    {gap cs : List Char} (read : skipBlanks gap = c :: cs) {n : Nat} {after : List Char} :
    (ShellConfig.readSeconds gap).toOption = some (n, after) ↔
      scanNumber (c :: cs) = .ok (.natural n, after) := by
  rw [ShellConfig.readSeconds, read]
  dsimp only
  rw [if_pos numeric]
  constructor
  · intro natural
    rcases scanned : scanNumber (c :: cs) with e | ⟨n | n | y, rest⟩ <;>
      rw [scanned] at natural <;> cases natural
    rfl
  · intro scanned
    rw [scanned]
    rfl

/-- Seconds are read as what they mean. -/
theorem reads_seconds : Reads ShellConfig.readSeconds secondsOf := by
  intro gap cs rest v blank spelled ends
  have skipped := spelled.skip blank rest
  obtain ⟨c, tail, whole, opens⟩ := spelled.start
  rw [whole, List.cons_append] at skipped
  cases v with
  | number ds =>
    cases spelled with | number numeral =>
    refine Option.ext fun ⟨n, after⟩ => ?_
    have scanned : scanNumber (cs ++ rest) = .ok (.natural n, after) ↔ _ :=
      numeral.scan_natural_iff ends
    rw [whole, List.cons_append] at scanned
    rw [whole, List.cons_append, readSeconds_numeral (kindAt_eq_number_iff.1 opens) skipped,
      scanned, Option.map_eq_some_iff]
    simp only [secondsOf_eq_some_iff, Written.number.injEq, Prod.mk.injEq]
    constructor
    · rintro ⟨digits, rfl⟩
      exact ⟨n, digits, rfl, rfl⟩
    · rintro ⟨_, digits, rfl, same⟩
      exact ⟨digits, same.symm⟩
  | _ =>
    have other : ¬(decide (c = '-') || c.isDigit) = true := by
      rw [← kindAt_eq_number_iff, opens]
      exact nofun
    rw [whole, List.cons_append, ShellConfig.readSeconds, skipped]
    dsimp only
    rw [if_neg other]
    exact refuse_fails _ _

/-- A value that may be `null` is read as the value is. -/
theorem Reads.optional {read : List Char → Except ConfigError (α × List Char)}
    {of : Written → Option α} (reads : Reads read of) :
    Reads (ShellConfig.readOptional read) (optionalOf of) := by
  intro gap cs rest v blank spelled ends
  rw [ShellConfig.readOptional, spelled.skip blank]
  have read := reads Gap.nil spelled ends
  cases v with
  | null =>
    cases spelled
    rfl
  | _ =>
    split
    · next same => exact absurd same (spelled.ne_cons nofun)
    · show _ = ((of _).map some).map _
      rw [toOption_bind, ← List.nil_append (cs ++ rest), read]
      cases of _ <;> rfl

/-- What is read can be changed afterwards. -/
theorem Reads.map {read : List Char → Except ConfigError (α × List Char)}
    {of : Written → Option α} (reads : Reads read of) (g : α → β) :
    Reads (fun cs => do
      let x ← read cs
      .ok (g x.1, x.2)) (fun v => (of v).map g) := by
  intro gap cs rest v blank spelled ends
  dsimp only
  rw [toOption_bind, reads blank spelled ends]
  cases of v <;> rfl

/-! ## Members -/

/-- What stands in front of a member: nothing for the first one, else a comma. -/
inductive Leads : Bool → List Char → Prop where
  | first : Leads true []
  | later {gap : List Char} : Gap gap → Leads false (gap ++ [','])

/-- Up to its value, a member is read as its name. -/
theorem nextMember_opens {first : Bool} {lead name : List Char} {key : String}
    (leads : Leads first lead) (named : Padded StringLiteral name key) (rest : List Char) :
    ∃ inside after, ShellConfig.nextMember first (lead ++ (name ++ ':' :: rest)) =
        .ok (true, inside) ∧
      scanString inside = .ok (key, after) ∧ ShellConfig.readColon after = .ok rest := by
  obtain @⟨before, literal, after, _, blank, quoted, blankAfter⟩ := named
  obtain ⟨inside, rfl, scanned⟩ := quoted.scan
  -- the name, from its opening quote on
  have opened : skipBlanks (before ++ ('"' :: inside ++ after) ++ ':' :: rest) =
      '"' :: (inside ++ (after ++ ':' :: rest)) := by
    rw [List.append_assoc, blank.skip, List.append_assoc, List.cons_append]
    exact skipBlanks_cons rfl _
  refine ⟨inside ++ (after ++ ':' :: rest), after ++ ':' :: rest, ?_, scanned _, ?_⟩
  · cases leads with
    | first =>
      rw [List.nil_append, ShellConfig.nextMember, opened]
      rfl
    | later blankBefore =>
      rw [List.append_assoc, ShellConfig.nextMember, blankBefore.skip, List.singleton_append,
        skipBlanks_cons rfl]
      simp only [Bool.false_eq_true, if_false, opened]
  · rw [ShellConfig.readColon, blankAfter.skip, skipBlanks_cons rfl]
    rfl

/-- A closing brace ends the members. -/
theorem nextMember_closes (first : Bool) {gap : List Char} (blank : Gap gap) (rest : List Char) :
    ShellConfig.nextMember first (gap ++ '\x7d' :: rest) = .ok (false, rest) := by
  rw [ShellConfig.nextMember, blank.skip, skipBlanks_cons rfl]
  rfl

/-- A loop takes in the members of an object one after the other. -/
structure TakesMembers {σ ρ : Type} (loop : Nat → Bool → σ → List Char → Option (ρ × List Char))
    (take : σ → String × Written → Option σ) (result : σ → ρ) : Prop where
  step : ∀ {fuel first s lead name gap value rest key v}, Leads first lead →
    Padded StringLiteral name key → Gap gap → Spells value v → EndsNumeral rest →
      loop (fuel + 1) first s (lead ++ (name ++ ':' :: (gap ++ (value ++ rest)))) =
        (take s (key, v)).bind fun s' => loop fuel false s' rest
  close : ∀ {fuel first s gap rest}, Gap gap →
    loop (fuel + 1) first s (gap ++ '\x7d' :: rest) = some (result s, rest)

/-- All members are taken in, in order. -/
theorem TakesMembers.run {σ ρ : Type} {loop : Nat → Bool → σ → List Char → Option (ρ × List Char)}
    {take : σ → String × Written → Option σ} {result : σ → ρ}
    (takes : TakesMembers loop take result) {cs : List Char} {members : List (String × Written)}
    (list : CommaList (Member Spells) cs members) {fuel : Nat} (enough : members.length ≤ fuel)
    {first : Bool} {lead : List Char} (leads : Leads first lead) (s : σ) (rest : List Char) :
    loop (fuel + 1) first s (lead ++ (cs ++ '\x7d' :: rest)) =
      (members.foldlM take s).map fun s' => (result s', rest) := by
  induction list generalizing fuel first lead s with
  | last member =>
    obtain ⟨named, ⟨blank, spelled, blankAfter⟩⟩ := member
    obtain ⟨fuel, rfl⟩ := Nat.exists_eq_add_of_le' enough
    have ends := blankAfter.endsNumeral (c := '\x7d') (by decide) rest
    simp only [List.append_assoc, List.cons_append, List.foldlM_cons, List.foldlM_nil]
    rw [takes.step leads named blank spelled ends]
    cases take s _ with
    | none => rfl
    | some s' => exact takes.close blankAfter
  | @more _ listed _ _ member list ih =>
    obtain ⟨named, @⟨_, _, gap, _, blank, spelled, blankAfter⟩⟩ := member
    obtain ⟨fuel, rfl⟩ := Nat.exists_eq_add_of_le' (Nat.le_trans (Nat.le_add_left 1 _) enough)
    have ends := blankAfter.endsNumeral (c := ',') (by decide) (listed ++ '\x7d' :: rest)
    have next : gap ++ ',' :: (listed ++ '\x7d' :: rest) =
        gap ++ [','] ++ (listed ++ '\x7d' :: rest) := by
      simp
    simp only [List.append_assoc, List.cons_append, List.foldlM_cons]
    rw [takes.step leads named blank spelled ends, next]
    cases take s _ with
    | none => rfl
    | some s' => exact ih (Nat.le_of_succ_le_succ enough) (.later blankAfter) s'

/-- After its opening brace, an object is read as its members. -/
theorem TakesMembers.object {σ ρ : Type}
    {loop : Nat → Bool → σ → List Char → Option (ρ × List Char)}
    {take : σ → String × Written → Option σ} {result : σ → ρ}
    (takes : TakesMembers loop take result) {cs : List Char} {members : List (String × Written)}
    (spelled : Spells cs (.object members)) :
    ∃ inside, cs = '\x7b' :: inside ∧ ∀ s rest,
      loop ((inside ++ rest).length + 1) true s (inside ++ rest) =
        (members.foldlM take s).map fun s' => (result s', rest) := by
  cases spelled with
  | @noMembers gap blank =>
    refine ⟨_, rfl, fun s rest => ?_⟩
    rw [List.append_assoc, List.singleton_append]
    exact takes.close blank
  | @members cs _ list =>
    refine ⟨_, rfl, fun s rest => ?_⟩
    rw [List.append_assoc, List.singleton_append]
    refine takes.run list ?_ .first s rest
    rw [List.length_append, List.length_cons]
    have few := list.length_le
    omega

/-! ## Preferences -/

/-- Entries are added one after the other as they are read. -/
theorem takesMembers_readEntries :
    TakesMembers (fun fuel first table cs => (ShellConfig.readEntries fuel first table cs).toOption)
      addEntry id where
  step {fuel first table lead name gap value rest key v} leads named blank spelled ends := by
    obtain ⟨inside, after, opened, scanned, colon⟩ :=
      nextMember_opens leads named (gap ++ (value ++ rest))
    have entered : ShellConfig.readEntries (fuel + 1) first table
        (lead ++ (name ++ ':' :: (gap ++ (value ++ rest)))) = (do
          let value ← ShellConfig.readText .string (gap ++ (value ++ rest))
          ShellConfig.readEntries fuel false (table.insert key value.1) value.2) := by
      rw [ShellConfig.readEntries, opened]
      simp only [ok_bind, if_true, scanned, scanned_ok, colon]
    rw [entered, toOption_bind, reads_text .string blank spelled ends, addEntry]
    cases textOf v <;> rfl
  close {fuel first table gap rest} blank := by
    rw [ShellConfig.readEntries, nextMember_closes first blank]
    rfl

/-- Preferences are read as the table that they mean. -/
theorem reads_preferences : Reads ShellConfig.readPreferences entriesOf := by
  intro gap cs rest v blank spelled ends
  rw [ShellConfig.readPreferences, spelled.skip blank]
  cases v with
  | object members =>
    obtain ⟨inside, rfl, read⟩ := takesMembers_readEntries.object spelled
    exact read [] rest
  | _ =>
    split
    · rfl
    · next same => exact absurd same (spelled.ne_cons nofun)
    · exact refuse_fails _ _

end DecompilerBridge.Shell
