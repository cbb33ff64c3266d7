import DecompilerBridge.Proofs.Preferences.History

/-!
# The contract of registration

Registration can be made on any store that calls have led to, whatever keys of the decompiler it
holds already and of whatever kind. It gives each preference its first value and its help text in
turn, and stops at a preference whose key refuses the value.

* A key takes a value that its kind accepts (`Takes`). Preferences that are all taken are all
  registered, and no other key changes (`registerEach_taken`).
* Five of the six preferences start with `false`, which a switch and a free text both accept. So
  only the theme, which comes last, can be refused (`switches_taken`, `takes_theme`,
  `register_cases`).
* What is left under every key is known in both cases, and a store in key order is known by what it
  holds (`Table.eq_of_find?`). A second registration therefore leaves the store as it is.
-/

set_option autoImplicit false

namespace DecompilerBridge

namespace Table

variable {α : Type}

/-- Tables in key order that hold the same under every key are the same. -/
theorem eq_of_find? {t u : Table α} (sorted : (t.map Prod.fst).Pairwise (· < ·))
    (sortedThen : (u.map Prod.fst).Pairwise (· < ·)) (same : ∀ key, t.find? key = u.find? key) :
    t = u := by
  have inOrder := List.pairwise_map.1 sorted
  have inOrderThen := List.pairwise_map.1 sortedThen
  have distinct : ∀ {v : Table α}, v.Pairwise (fun a b => a.1 < b.1) → v.Nodup := by
    intro v ordered
    refine ordered.imp fun before equal => ?_
    rw [equal] at before
    exact String.lt_irrefl _ before
  have members : ∀ p, p ∈ t ↔ p ∈ u := by
    rintro ⟨key, value⟩
    rw [mem_iff_find? sorted, mem_iff_find? sortedThen, same key]
  have permuted : List.Perm t u :=
    (List.perm_ext_iff_of_nodup (distinct inOrder) (distinct inOrderThen)).2 members
  refine permuted.eq_of_pairwise ?_ inOrder inOrderThen
  intro p q _ _ before after
  exact absurd after (String.lt_asymm before)

end Table

namespace Preference

/-- The preference of the theme, which is registered last. -/
def theme : Preference :=
  ⟨themeKey, "default", "defines the color theme to be used on r2dec."⟩

/-- The preferences that are registered before the theme. -/
def beforeTheme : List Preference := all.take 5

/-- The theme is registered last. -/
theorem all_eq : all = beforeTheme ++ [theme] := rfl

/-- The six keys differ. -/
theorem keys_distinct : (all.map key).Nodup := by
  decide

end Preference

namespace Preferences

variable {p q : Preferences} {pref : Preference} {key : String}

/-! ## One preference -/

/-- The kind that a key has, or that a preference gives to a new one. -/
def kindFor (p : Preferences) (pref : Preference) : PreferenceKind :=
  (p.kind? pref.key).getD pref.kind

/-- A key keeps the first value of a preference as it is. -/
def Takes (p : Preferences) (pref : Preference) : Prop :=
  (p.kindFor pref).accept pref.initial = some pref.initial

/-- What a registered preference is kept as: a key that was there keeps its kind. -/
def registeredEntry (p : Preferences) (pref : Preference) : PreferenceEntry :=
  ⟨pref.initial, p.kindFor pref, pref.description⟩

/-- The kind that a key gets depends on its own entry. -/
theorem kindFor_congr (same : p.entry? pref.key = q.entry? pref.key) :
    p.kindFor pref = q.kindFor pref := by
  simp only [kindFor, kind?, same]

/-- A store is what another has become by the registration of preferences. -/
structure Registers (p : Preferences) (prefs : List Preference) (q : Preferences) : Prop where
  locked : q.locked = p.locked
  entry : ∀ pref ∈ prefs, q.entry? pref.key = some (p.registeredEntry pref)
  others : ∀ key, key ∉ prefs.map Preference.key → q.entry? key = p.entry? key

/-- An unlocked store writes a default that its kind accepts. -/
theorem set_taken (unlocked : p.locked = false) (takes : p.Takes pref) :
    ∃ text, p.set pref.key pref.initial =
      .ok { p with entries := p.entries.insert pref.key ⟨pref.initial, p.kindFor pref, text⟩ } := by
  unfold Takes at takes
  unfold set
  cases found : p.entry? pref.key with
  | none =>
    have fresh : p.kindFor pref = pref.kind := by simp [kindFor, kind?, found]
    refine ⟨"", ?_⟩
    simp [unlocked, fresh, Preference.kind]
  | some entry =>
    have known : p.kindFor pref = entry.kind := by simp [kindFor, kind?, found]
    rw [known] at takes
    exact ⟨entry.description, by simp [takes, known]⟩

/-- A preference that is taken is registered. -/
theorem registerOne_taken (unlocked : p.locked = false) (takes : p.Takes pref) :
    (p.registerOne pref).2 = .ok () ∧ p.Registers [pref] (p.registerOne pref).1 := by
  obtain ⟨text, written⟩ := set_taken unlocked takes
  let entries := p.entries.insert pref.key ⟨pref.initial, p.kindFor pref, text⟩
  have held : entries.find? pref.key = some ⟨pref.initial, p.kindFor pref, text⟩ :=
    Table.find?_insert_self _ _ _
  have described :
      ({ p with entries := entries } : Preferences).describe pref.key pref.description =
      .ok { p with entries := entries.insert pref.key (p.registeredEntry pref) } := by
    simp only [describe, entry?, held, registeredEntry]
  have registered : p.registerOne pref =
      ({ p with entries := entries.insert pref.key (p.registeredEntry pref) }, .ok ()) := by
    rw [registerOne, written]
    simp only [entries] at described
    simp only [described, entries]
  rw [registered]
  refine ⟨rfl, rfl, ?_, ?_⟩
  · intro other mem
    rw [List.mem_singleton.1 mem]
    exact Table.find?_insert_self _ _ _
  · intro key absent
    have other : key ≠ pref.key := fun same => absent (by simp [same])
    exact (Table.find?_insert_of_ne other _ _).trans (Table.find?_insert_of_ne other _ _)

/-- A preference whose key refuses the value leaves the store as it is. -/
theorem registerOne_refused (isSwitch : p.kind? pref.key = some .switch)
    (refuses : PreferenceKind.switch.accept pref.initial = none) :
    p.registerOne pref = (p, .error (.notBoolean pref.key pref.initial)) := by
  obtain ⟨entry, found, kind⟩ := Option.map_eq_some_iff.1 isSwitch
  have refused : entry.kind.accept pref.initial = none := by rw [kind, refuses]
  simp [registerOne, set, found, refused]

/-! ## Preferences in order -/

/-- Preferences are registered one after the other, as long as they are taken. -/
theorem registerEach_append (first rest : List Preference) (p : Preferences)
    (taken : (registerEach first p).2 = .ok ()) :
    registerEach (first ++ rest) p = registerEach rest (registerEach first p).1 := by
  induction first generalizing p with
  | nil => rfl
  | cons pref more ih =>
    rcases registered : p.registerOne pref with ⟨q, e | ⟨⟩⟩
    · simp only [registerEach, registered] at taken
      cases taken
    · simp only [registerEach, registered] at taken
      simp only [List.cons_append, registerEach, registered]
      exact ih q taken

/-- Preferences with keys of their own that are all taken are all registered. -/
theorem registerEach_taken (prefs : List Preference) (distinct : (prefs.map Preference.key).Nodup)
    (unlocked : p.locked = false) (takes : ∀ pref ∈ prefs, p.Takes pref) :
    (registerEach prefs p).2 = .ok () ∧ p.Registers prefs (registerEach prefs p).1 := by
  induction prefs generalizing p with
  | nil => exact ⟨rfl, rfl, nofun, fun _ _ => rfl⟩
  | cons pref rest ih =>
    obtain ⟨fresh, distinctRest⟩ := List.nodup_cons.1 distinct
    obtain ⟨taken, first⟩ := registerOne_taken unlocked (takes pref (List.mem_cons_self ..))
    rcases registered : p.registerOne pref with ⟨q, e | ⟨⟩⟩
    · rw [registered] at taken
      cases taken
    · rw [registered] at first
      -- the keys of the others are as they were, so they take what they took
      have kept : ∀ other ∈ rest, q.entry? other.key = p.entry? other.key := by
        intro other mem
        refine first.others _ fun same => fresh ?_
        rw [← List.mem_singleton.1 same]
        exact List.mem_map_of_mem mem
      have takesStill : ∀ other ∈ rest, q.Takes other := by
        intro other mem
        unfold Takes
        rw [kindFor_congr (kept other mem)]
        exact takes other (List.mem_cons_of_mem _ mem)
      obtain ⟨ended, later⟩ := ih distinctRest (first.locked.trans unlocked) takesStill
      rw [registerEach, registered]
      refine ⟨ended, later.locked.trans first.locked, ?_, ?_⟩
      · intro other mem
        rcases List.mem_cons.1 mem with rfl | mem
        · rw [later.others _ fresh]
          exact first.entry other (List.mem_singleton_self other)
        · rw [later.entry other mem, registeredEntry, registeredEntry,
            kindFor_congr (kept other mem)]
      · intro key absent
        rw [List.map_cons, List.mem_cons, not_or] at absent
        rw [later.others key absent.2]
        exact first.others key (by simpa using absent.1)

/-! ## The preferences of the decompiler -/

/-- The preferences before the theme are taken by keys of either kind. -/
theorem switches_taken (p : Preferences) : ∀ pref ∈ Preference.beforeTheme, p.Takes pref := by
  have eitherKind : ∀ pref ∈ Preference.beforeTheme,
      PreferenceKind.switch.accept pref.initial = some pref.initial := by
    decide +kernel
  intro pref mem
  unfold Takes
  cases p.kindFor pref with
  | switch => exact eitherKind pref mem
  | text => rfl

/-- A switch does not accept the default theme. -/
theorem refuses_theme : PreferenceKind.switch.accept Preference.theme.initial = none := by
  decide

/-- A theme that is no switch accepts the default. -/
theorem takes_theme (other : p.kind? Preference.themeKey ≠ some .switch) :
    p.Takes Preference.theme := by
  unfold Takes kindFor
  cases known : p.kind? Preference.theme.key with
  | none => rfl
  | some kind =>
    cases kind with
    | text => rfl
    | switch => exact absurd known other

/-- How registration ends: all six preferences are registered, or the theme is a switch, and the
five before it are. -/
theorem register_cases (p : Preferences) :
    (p.kind? Preference.themeKey ≠ some .switch ∧ p.register.2 = .ok () ∧
        (p.lock true).Registers Preference.all p.register.1) ∨
      (p.kind? Preference.themeKey = some .switch ∧
        p.register.2 = .error (.notBoolean Preference.themeKey "default") ∧
        (p.lock true).Registers Preference.beforeTheme p.register.1) := by
  have relock : ∀ {prefs : List Preference} {q : Preferences}, (p.lock false).Registers prefs q →
      (p.lock true).Registers prefs (q.lock true) :=
    fun registers => ⟨rfl, registers.entry, registers.others⟩
  by_cases isSwitch : p.kind? Preference.themeKey = some .switch
  · right
    obtain ⟨taken, five⟩ := registerEach_taken (p := p.lock false) Preference.beforeTheme
      (by decide) rfl (switches_taken _)
    have still : (registerEach Preference.beforeTheme (p.lock false)).1.kind?
        Preference.theme.key = some .switch := by
      rw [kind?, five.others Preference.theme.key (by decide)]
      exact isSwitch
    have ended : registerEach Preference.all (p.lock false) =
        ((registerEach Preference.beforeTheme (p.lock false)).1,
          .error (.notBoolean Preference.themeKey "default")) := by
      rw [Preference.all_eq, registerEach_append _ _ _ taken, registerEach,
        registerOne_refused still refuses_theme]
      rfl
    refine ⟨isSwitch, ?_, ?_⟩
    · rw [register, ended]
    · rw [register, ended]
      exact relock five
  · left
    have takes : ∀ pref ∈ Preference.all, (p.lock false).Takes pref := by
      intro pref mem
      rw [Preference.all_eq, List.mem_append, List.mem_singleton] at mem
      rcases mem with mem | rfl
      · exact switches_taken _ pref mem
      · exact takes_theme isSwitch
    obtain ⟨taken, six⟩ :=
      registerEach_taken (p := p.lock false) Preference.all Preference.keys_distinct rfl takes
    exact ⟨isSwitch, taken, relock six⟩

/-! ## Registration again -/

/-- Registration leaves a theme that is a switch as it is, and makes no switch of another. -/
theorem register_theme_switch_iff (p : Preferences) :
    kind? p.register.1 Preference.themeKey = some .switch ↔
      p.kind? Preference.themeKey = some .switch := by
  rcases register_cases p with ⟨other, -, six⟩ | ⟨isSwitch, -, five⟩
  · have held := six.entry Preference.theme (by decide)
    have kind : kind? p.register.1 Preference.themeKey =
        some ((p.kind? Preference.themeKey).getD .text) := by
      rw [kind?, show Preference.themeKey = Preference.theme.key from rfl, held]
      rfl
    rw [kind]
    cases known : p.kind? Preference.themeKey with
    | none => simp
    | some kind => simp
  · have same : entry? p.register.1 Preference.themeKey = p.entry? Preference.themeKey :=
      five.others Preference.themeKey (by decide)
    rw [kind?, same]
    rfl

/-- Registration is answered the second time as the first time. -/
theorem register_again_answer (p : Preferences) : p.register.1.register.2 = p.register.2 := by
  have same := register_theme_switch_iff p
  rcases register_cases p with ⟨other, ended, -⟩ | ⟨isSwitch, ended, -⟩ <;>
    rcases register_cases p.register.1 with ⟨otherThen, endedThen, -⟩ | ⟨switchThen, endedThen, -⟩
  · rw [ended, endedThen]
  · exact absurd (same.1 switchThen) other
  · exact absurd (same.2 isSwitch) otherThen
  · rw [ended, endedThen]

/-- A second registration leaves a store in key order as the first one has left it. -/
theorem Registers.again {r : Preferences} {prefs : List Preference} (locked : p.locked = true)
    (first : p.Registers prefs q) (second : (q.lock true).Registers prefs r)
    (sorted : (q.entries.map Prod.fst).Pairwise (· < ·))
    (sortedThen : (r.entries.map Prod.fst).Pairwise (· < ·)) : r = q := by
  have entries : r.entries = q.entries := by
    refine Table.eq_of_find? sortedThen sorted fun key => ?_
    by_cases mem : key ∈ prefs.map Preference.key
    · obtain ⟨pref, hpref, rfl⟩ := List.mem_map.1 mem
      have held := first.entry pref hpref
      have kept : (q.lock true).kindFor pref = p.kindFor pref := by
        show ((q.entry? pref.key).map (·.kind)).getD pref.kind = p.kindFor pref
        rw [held]
        rfl
      have heldThen := second.entry pref hpref
      rw [registeredEntry, kept] at heldThen
      exact heldThen.trans held.symm
    · exact second.others key mem
  have lockedThen : r.locked = q.locked := second.locked.trans (first.locked.trans locked).symm
  rcases r with ⟨_, _⟩
  rcases q with ⟨_, _⟩
  cases entries
  cases lockedThen
  rfl

/-- A registered preference holds its first value and its help text. A key that was there has the
kind that it had; a new one is a switch, or a text if it is the theme. -/
structure HoldsDefault (before after : Preferences) (pref : Preference) : Prop where
  value : after.get? pref.key = some pref.initial
  description : after.description? pref.key = some pref.description
  kept : ∀ kind, before.kind? pref.key = some kind → after.kind? pref.key = some kind
  fresh : before.get? pref.key = none →
    after.kind? pref.key = some (if pref.key = Preference.themeKey then .text else .switch)

/-- A registered preference holds its default, as the kind of its key keeps it. -/
theorem Registers.holdsDefault {prefs : List Preference}
    (registers : (p.lock true).Registers prefs q)
    (within : prefs ⊆ Preference.all) (mem : pref ∈ prefs) : HoldsDefault p q pref := by
  have kinds : ∀ pref ∈ Preference.all,
      pref.kind = if pref.key = Preference.themeKey then .text else .switch := by
    decide +kernel
  have held := registers.entry pref mem
  have kind : q.kind? pref.key = some (p.kindFor pref) := by
    rw [kind?, held]
    rfl
  refine ⟨?_, ?_, ?_, ?_⟩
  · rw [get?, held]
    rfl
  · rw [description?, held]
    rfl
  · intro known given
    rw [kind, kindFor, given]
    rfl
  · intro absent
    have none : p.kind? pref.key = none := by
      rw [kind?, Option.map_eq_none_iff]
      exact Option.map_eq_none_iff.1 absent
    rw [kind, kindFor, none, ← kinds pref (within mem)]
    rfl

/-- What registration does to a store. -/
structure RegistersWell (p : Preferences) : Prop where
  locked : p.register.1.locked = true
  others : ∀ key, key ∉ Preference.all.map Preference.key → entry? p.register.1 key = p.entry? key
  succeeds_iff : p.register.2 = .ok () ↔ p.kind? "r2dec.theme" ≠ some .switch
  succeeded : p.register.2 = .ok () → ∀ pref ∈ Preference.all, HoldsDefault p p.register.1 pref
  refused : p.register.2 ≠ .ok () →
    p.register.2 = .error (.notBoolean "r2dec.theme" "default") ∧
      (∀ pref ∈ Preference.all.take 5, HoldsDefault p p.register.1 pref) ∧
      entry? p.register.1 "r2dec.theme" = p.entry? "r2dec.theme"
  again : p.register.1.register = p.register

/-- On every store that operations on a new one have led to, locked or not and with whatever keys,
registration locks the store, leaves all other keys alone, and registers the six preferences, or the
first five if the theme is a switch already, which it then reports. Registering again changes
nothing and is answered alike. -/
theorem register_keeps_contract (ops : List Operation) : RegistersWell (performAll ops {}) := by
  generalize reached : performAll ops {} = p
  -- the store after one registration more, and after two, is in key order
  have ordered : ∀ more, ((performAll more p).entries.map Prod.fst).Pairwise (· < ·) := by
    intro more
    have made := performAll_made (ops ++ more) {}
    rw [performAll_append, reached] at made
    exact (Refines.new.of_made made).sorted
  have sorted : (p.register.1.entries.map Prod.fst).Pairwise (· < ·) := ordered [.register]
  have sortedThen : (p.register.1.register.1.entries.map Prod.fst).Pairwise (· < ·) :=
    ordered [.register, .register]
  have within : Preference.beforeTheme ⊆ Preference.all := List.take_subset _ _
  rcases register_cases p with ⟨other, ended, six⟩ | ⟨isSwitch, ended, five⟩
  · have theme : HoldsDefault p p.register.1 Preference.theme :=
      six.holdsDefault (List.Subset.refl _) (by decide)
    have otherThen : p.register.1.kind? Preference.theme.key ≠ some .switch := by
      cases known : p.kind? Preference.themeKey with
      | none =>
        have absent : p.get? Preference.themeKey = none :=
          Option.map_eq_none_iff.2 (Option.map_eq_none_iff.1 known)
        rw [theme.fresh absent]
        decide
      | some kind =>
        rw [theme.kept kind known]
        exact fun same => other (known.trans same)
    exact
      { locked := rfl
        others := fun key absent => six.others key absent
        succeeds_iff := ⟨fun _ => other, fun _ => ended⟩
        succeeded := fun _ pref mem => six.holdsDefault (List.Subset.refl _) mem
        refused := fun failed => absurd ended failed
        again := by
          rcases register_cases p.register.1 with ⟨-, endedThen, sixThen⟩ | ⟨isSwitch, -, -⟩
          · exact Prod.ext (six.again rfl sixThen sorted sortedThen) (endedThen.trans ended.symm)
          · exact absurd isSwitch otherThen }
  · have theme : entry? p.register.1 Preference.themeKey = p.entry? Preference.themeKey :=
      five.others Preference.themeKey (by decide)
    have switchThen : p.register.1.kind? Preference.themeKey = some .switch := by
      rw [kind?, theme]
      exact isSwitch
    exact
      { locked := rfl
        others := fun key absent => five.others key fun mem =>
          absent (List.map_subset Preference.key within mem)
        succeeds_iff := by
          rw [ended]
          refine ⟨fun succeeds => ?_, fun other => absurd isSwitch other⟩
          cases succeeds
        succeeded := fun succeeds => by
          rw [ended] at succeeds
          cases succeeds
        refused := fun _ => ⟨ended, fun pref mem => five.holdsDefault within mem, theme⟩
        again := by
          rcases register_cases p.register.1 with ⟨other, -, -⟩ | ⟨-, endedThen, fiveThen⟩
          · exact absurd switchThen other
          · exact Prod.ext (five.again rfl fiveThen sorted sortedThen)
              (endedThen.trans ended.symm) }

end Preferences

end DecompilerBridge
