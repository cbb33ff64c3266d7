import DecompilerBridge.Preferences.Registry

/-!
# Stores with the preferences of the decompiler

What holds of a preference store once the preferences of the decompiler are registered, and through
every write after that.

`set_cases` says all that a write can do. In a locked store it changes the value of one entry to one
that the kind of the entry accepts, so the keys, the kinds and the help texts stay, and a switch
stays on one of its two spellings: `Registered` is kept by every write (`Registered.set`).
-/

set_option autoImplicit false

namespace DecompilerBridge

/-! ## Keys of a table -/

namespace Table

variable {α : Type}

/-- A key with a value is among the keys. -/
theorem mem_keys_of_find? {key : String} {value : α} {t : Table α}
    (found : t.find? key = some value) : key ∈ t.map Prod.fst := by
  induction t with
  | nil => cases found
  | cons p rest ih =>
    obtain ⟨k, v⟩ := p
    by_cases same : k = key
    · simp [same]
    · simp only [find?, if_neg same] at found
      simp [ih found]

/-- A key that is not among those of a table is not found. -/
theorem find?_of_not_mem {key : String} {t : Table α} (absent : key ∉ t.map Prod.fst) :
    t.find? key = none := by
  cases found : t.find? key with
  | none => rfl
  | some value => exact absurd (mem_keys_of_find? found) absent

/-- Giving a key of a table in key order another value keeps the keys. -/
theorem keys_insert_of_mem {key : String} {t : Table α}
    (sorted : (t.map Prod.fst).Pairwise (· < ·)) (mem : key ∈ t.map Prod.fst) (value : α) :
    (insert key value t).map Prod.fst = t.map Prod.fst := by
  induction t with
  | nil => cases mem
  | cons p rest ih =>
    obtain ⟨k, v⟩ := p
    rw [List.map_cons, List.pairwise_cons] at sorted
    by_cases same : k = key
    · simp [insert, same]
    · have later : key ∈ rest.map Prod.fst := by
        rw [List.map_cons, List.mem_cons] at mem
        exact mem.resolve_left fun h => same h.symm
      have notBefore : ¬ key < k := String.lt_asymm (sorted.1 key later)
      simp [insert, same, notBefore, ih sorted.2 later]

end Table

/-! ## Writes -/

/-- What a switch accepts is one of its two spellings. -/
theorem PreferenceKind.accept_switch {value stored : String}
    (accepted : PreferenceKind.switch.accept value = some stored) :
    stored = "true" ∨ stored = "false" := by
  obtain ⟨position, -, rfl⟩ := Option.map_eq_some_iff.1 accepted
  cases position with
  | true => exact .inl rfl
  | false => exact .inr rfl

namespace Preferences

/-- What a write can do: it changes the value of an entry to one that the kind of the entry accepts,
or, in a store that is not locked, it creates an entry. -/
theorem set_cases {p changed : Preferences} {key value : String}
    (written : p.set key value = .ok changed) :
    (∃ entry stored, p.entry? key = some entry ∧ entry.kind.accept value = some stored ∧
        changed = { p with entries := p.entries.insert key { entry with value := stored } }) ∨
      (p.entry? key = none ∧ p.locked = false ∧
        changed = { p with entries := p.entries.insert key ⟨value, .ofInitial value, ""⟩ }) := by
  unfold set at written
  cases found : p.entry? key with
  | some entry =>
    cases accepted : entry.kind.accept value with
    | some stored =>
      simp only [found, accepted, Except.ok.injEq] at written
      exact .inl ⟨entry, stored, rfl, accepted, written.symm⟩
    | none => simp [found, accepted] at written
  | none =>
    cases locked : p.locked with
    | true => simp [found, locked] at written
    | false =>
      simp only [found, locked, Bool.false_eq_true, if_false, Except.ok.injEq] at written
      exact .inr ⟨rfl, rfl, written.symm⟩

end Preferences

/-! ## The preferences of the decompiler -/

namespace Preference

/-- The kind of a preference. -/
def kind (pref : Preference) : PreferenceKind := .ofInitial pref.initial

/-- The keys of the decompiler in key order. -/
def sortedKeys : List String :=
  ["r2dec.asm", "r2dec.blocks", "r2dec.casts", "r2dec.paddr", "r2dec.theme", "r2dec.xrefs"]

/-- The keys are in key order. -/
theorem sortedKeys_pairwise : sortedKeys.Pairwise (· < ·) := by
  decide

/-- The keys that are switches. -/
def switchKeys : List String :=
  ["r2dec.asm", "r2dec.blocks", "r2dec.casts", "r2dec.paddr", "r2dec.xrefs"]

/-- The key that is a free text. -/
def themeKey : String := "r2dec.theme"

end Preference

/-- An entry has the kind and the help text of a preference, and a switch stands on one of its two
spellings. -/
structure PreferenceEntry.Fits (entry : PreferenceEntry) (pref : Preference) : Prop where
  kind : entry.kind = pref.kind
  description : entry.description = pref.description
  switch : entry.kind = .switch → entry.value = "true" ∨ entry.value = "false"

/-- An entry goes on fitting when it takes a value that its kind accepts. -/
theorem PreferenceEntry.Fits.accept {entry : PreferenceEntry} {pref : Preference}
    (fits : entry.Fits pref) {value stored : String}
    (accepted : entry.kind.accept value = some stored) :
    PreferenceEntry.Fits { entry with value := stored } pref where
  kind := fits.kind
  description := fits.description
  switch isSwitch := by
    have isSwitch : entry.kind = .switch := isSwitch
    rw [isSwitch] at accepted
    exact PreferenceKind.accept_switch accepted

namespace Preferences

/-- A locked store that holds the preferences of the decompiler and no other. -/
structure Registered (p : Preferences) : Prop where
  locked : p.locked = true
  keys : p.entries.map Prod.fst = Preference.sortedKeys
  fits : ∀ pref ∈ Preference.all, ∃ entry, p.entry? pref.key = some entry ∧ entry.Fits pref

/-- Registration in a new store leaves it registered. -/
theorem register_registered : ({} : Preferences).register.1.Registered where
  locked := rfl
  keys := by decide +kernel
  fits := by
    have held : ∀ pref ∈ Preference.all, Preferences.entry? (register {}).1 pref.key =
        some ⟨pref.initial, pref.kind, pref.description⟩ := by
      decide +kernel
    have spelled : ∀ pref ∈ Preference.all, pref.kind = .switch → pref.initial = "false" := by
      decide +kernel
    intro pref hpref
    exact ⟨_, held pref hpref, rfl, rfl, fun h => .inr (spelled pref hpref h)⟩

/-- Every write keeps a store registered. -/
theorem Registered.set {p changed : Preferences} (registered : p.Registered) {key value : String}
    (written : p.set key value = .ok changed) : changed.Registered := by
  rcases set_cases written with ⟨entry, stored, found, accepted, rfl⟩ | ⟨-, unlocked, -⟩
  · refine ⟨registered.locked, ?_, ?_⟩
    · have sorted : (p.entries.map Prod.fst).Pairwise (· < ·) := by
        rw [registered.keys]
        exact Preference.sortedKeys_pairwise
      rw [Table.keys_insert_of_mem sorted (Table.mem_keys_of_find? found), registered.keys]
    · intro pref hpref
      obtain ⟨held, hheld, fits⟩ := registered.fits pref hpref
      by_cases same : pref.key = key
      · have sameEntry : held = entry := by
          rw [same, found] at hheld
          exact (Option.some.inj hheld).symm
        subst sameEntry
        refine ⟨{ held with value := stored }, ?_, fits.accept accepted⟩
        rw [same]
        exact Table.find?_insert_self _ _ _
      · refine ⟨held, ?_, fits⟩
        rw [← hheld]
        exact Table.find?_insert_of_ne same _ _
  · rw [registered.locked] at unlocked
    cases unlocked

/-- The position of a switch can be read in a registered store. -/
theorem Registered.switch {p : Preferences} (registered : p.Registered) {key : String}
    (isSwitch : key ∈ Preference.switchKeys) :
    p.kind? key = some .switch ∧ (p.get? key = some "true" ∨ p.get? key = some "false") ∧
      (p.switch? key).isSome = true := by
  have named : ∀ key ∈ Preference.switchKeys,
      ∃ pref ∈ Preference.all, pref.key = key ∧ pref.kind = .switch := by
    decide +kernel
  obtain ⟨pref, hpref, rfl, hkind⟩ := named key isSwitch
  obtain ⟨⟨value, kind, description⟩, held, fits⟩ := registered.fits pref hpref
  have kindEq : kind = .switch := fits.kind.trans hkind
  subst kindEq
  rcases fits.switch rfl with on | off
  · cases on
    simp [kind?, get?, switch?, held, parseSwitch?]
  · cases off
    simp [kind?, get?, switch?, held, parseSwitch?]

/-- The theme is a free text in a registered store. -/
theorem Registered.theme {p : Preferences} (registered : p.Registered) :
    p.kind? Preference.themeKey = some .text ∧ p.switch? Preference.themeKey = none := by
  have named : ∃ pref ∈ Preference.all, pref.key = Preference.themeKey ∧ pref.kind = .text := by
    decide +kernel
  obtain ⟨pref, hpref, hkey, hkind⟩ := named
  obtain ⟨⟨value, kind, description⟩, held, fits⟩ := registered.fits pref hpref
  have kindEq : kind = .text := fits.kind.trans hkind
  subst kindEq
  rw [hkey] at held
  simp [kind?, switch?, held]

/-- Every preference has its help text in a registered store. -/
theorem Registered.description {p : Preferences} (registered : p.Registered) {pref : Preference}
    (hpref : pref ∈ Preference.all) : p.description? pref.key = some pref.description := by
  obtain ⟨entry, held, fits⟩ := registered.fits pref hpref
  simp [description?, held, fits.description]

/-- What can be read of a store: it is locked, it holds the six keys of the decompiler and no other,
with their help texts and kinds, five of them are switches with a position, and the theme is none.
-/
structure HoldsDecompilerKeys (p : Preferences) : Prop where
  locked : p.locked = true
  keys : p.entries.map Prod.fst = Preference.sortedKeys
  descriptions : ∀ pref ∈ Preference.all, p.description? pref.key = some pref.description
  switches : ∀ key ∈ Preference.switchKeys, p.kind? key = some .switch ∧
    (p.get? key = some "true" ∨ p.get? key = some "false") ∧ (p.switch? key).isSome = true
  theme : p.kind? Preference.themeKey = some .text ∧ p.switch? Preference.themeKey = none

/-- All of that can be read of a registered store. -/
theorem Registered.holdsDecompilerKeys {p : Preferences} (registered : p.Registered) :
    p.HoldsDecompilerKeys where
  locked := registered.locked
  keys := registered.keys
  descriptions _ hpref := registered.description hpref
  switches _ isSwitch := registered.switch isSwitch
  theme := registered.theme

end Preferences

end DecompilerBridge
