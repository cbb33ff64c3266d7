import DecompilerBridge.Proofs.Shell.PreferenceCommands

/-!
# Configured preferences

A session takes the preferences of a config file one after the other and passes over those that are
refused. So its store is what the writes leave (`Session.applyPreferences_host`), and what is known
of writes to a locked store under distinct keys is known of configured preferences.

A refusal is decided by the kind of a key, and no write changes a kind. Hence the records that are
noted tell of every entry what the store says of it at the start (`Session.applyPreferences_notes`).
-/

set_option autoImplicit false

namespace DecompilerBridge.Shell

open Text

variable {τ : Type}

/-- What is noted of a configured preference, as a store takes it or refuses it. -/
def configuredRecord (p : Preferences) (entry : String × String) : LogRecord :=
  match p.outcome (.set entry.1 entry.2) with
  | .ok () => .debug (entry.1 ++ " = " ++ entry.2)
  | .error e => .warn ("ignoring preference " ++ entry.1 ++ ": " ++ e.message)

namespace Session

/-- One configured preference is one write, and one record. -/
theorem applyPreferences_cons (entry : String × String) (rest : List (String × String))
    (s : Session τ) :
    s.applyPreferences (entry :: rest) =
      let later := Session.applyPreferences rest
        { s with preferences := s.preferences.after (.set entry.1 entry.2) }
      (configuredRecord s.preferences entry :: later.1, later.2) := by
  obtain ⟨key, value⟩ := entry
  rw [applyPreferences]
  cases written : s.preferences.set key value <;>
    simp only [configuredRecord, Preferences.outcome, Preferences.after, Preferences.attempt_set,
      written]

/-- Configured preferences are written one after the other. -/
theorem applyPreferences_host (values : List (String × String)) (s : Session τ) :
    (s.applyPreferences values).2 =
      { s with preferences := s.preferences.writeAll values } := by
  induction values generalizing s with
  | nil => rfl
  | cons entry rest ih =>
    rw [applyPreferences_cons]
    exact ih _

/-- Every entry is noted, none stops the others. -/
theorem applyPreferences_notes {s : Session τ} (locked : s.preferences.locked = true)
    (values : List (String × String)) :
    (s.applyPreferences values).1 = values.map (configuredRecord s.preferences) := by
  induction values generalizing s with
  | nil => rfl
  | cons entry rest ih =>
    have lockedThen : (s.preferences.after (.set entry.1 entry.2)).locked = true :=
      (Preferences.locked_after_set _ _ _).trans locked
    have same : configuredRecord (s.preferences.after (.set entry.1 entry.2)) =
        configuredRecord s.preferences := by
      funext later
      rw [configuredRecord, Preferences.outcome_after_set locked]
      rfl
    rw [applyPreferences_cons, List.map_cons]
    simp only [ih (s := { s with preferences := s.preferences.after (.set entry.1 entry.2) })
      lockedThen, same]

/-- A configured preference without white space around its value is what the command writes. -/
theorem applyPreferences_eq_command (t : Transport τ) {key value : String} (names : NamesKey key)
    (trimmed : trim value = value) (s : Session τ) :
    (s.applyPreferences [(key, value)]).2 =
      (s.command t ("e " ++ key ++ "=" ++ value)).2.2 := by
  rw [command_write t names, trimmed, applyPreferences_host]
  cases written : s.preferences.set key value <;>
    simp only [Preferences.writeAll, List.foldl_cons, List.foldl_nil, Preferences.after,
      Preferences.attempt_set, written]

end Session

/-- What configured preferences do to a session.

* A key takes the value that is configured for it, as its kind keeps it, and stays as it is if there
  is none or it refuses it. Kinds and help texts stay. Keys that are not there are not created.
* Every entry is taken or passed over, as a record tells of each.
* The order of the entries does not matter, and to apply them again changes nothing.
* One preference without white space around its value is what the command writes. -/
structure AppliesPointwise (t : Transport τ) (values : Table String) (s : Session τ) : Prop where
  session : (s.applyPreferences values).2 =
    { s with preferences := (s.applyPreferences values).2.preferences }
  locked : (s.applyPreferences values).2.preferences.locked = s.preferences.locked
  given : ∀ key kind value, s.preferences.kind? key = some kind → (key, value) ∈ values →
    (kind = .switch → value ∈ ["true", "false", "1", "0"]) →
      (s.applyPreferences values).2.preferences.get? key = some (Preferences.spelled kind value)
  kept : ∀ key kind, s.preferences.kind? key = some kind →
    (∀ value, (key, value) ∈ values → kind = .switch ∧ value ∉ ["true", "false", "1", "0"]) →
      (s.applyPreferences values).2.preferences.entry? key = s.preferences.entry? key
  ignored : ∀ key, s.preferences.entry? key = none →
    (s.applyPreferences values).2.preferences.entry? key = none
  kinds : ∀ key, (s.applyPreferences values).2.preferences.kind? key = s.preferences.kind? key
  descriptions : ∀ key,
    (s.applyPreferences values).2.preferences.description? key = s.preferences.description? key
  noted : (s.applyPreferences values).1 = values.map (configuredRecord s.preferences)
  anyOrder : ∀ order : Table String, order.Perm values →
    (s.applyPreferences order).2 = (s.applyPreferences values).2
  again : ((s.applyPreferences values).2.applyPreferences values).2 = (s.applyPreferences values).2
  command : ∀ key, NamesKey key → ∀ value, trim value = value →
    (s.applyPreferences [(key, value)]).2 = (s.command t ("e " ++ key ++ "=" ++ value)).2.2

/-- Writing values in key order does with every key what its own value says. -/
theorem Session.appliesPointwise (t : Transport τ) {s : Session τ}
    (locked : s.preferences.locked = true) (ordered : s.preferences.InKeyOrder)
    {values : Table String} (distinct : (values.map Prod.fst).Nodup) :
    AppliesPointwise t values s := by
  have stored := fun values' => Session.applyPreferences_host values' s
  have isHeld : ∀ {key kind}, s.preferences.kind? key = some kind →
      ∃ entry, s.preferences.entry? key = some entry ∧ entry.kind = kind :=
    fun known => Option.map_eq_some_iff.1 known
  constructor
  case session => rw [stored]
  case locked =>
    rw [stored]
    exact Preferences.locked_writeAll values _
  case given =>
    intro key kind value known mem taken
    obtain ⟨entry, held, rfl⟩ := isHeld known
    rw [stored]
    exact Preferences.get?_writeAll_of_mem locked distinct mem held taken
  case kept =>
    intro key kind known refused
    obtain ⟨entry, held, rfl⟩ := isHeld known
    rw [stored]
    exact Preferences.entry?_writeAll_of_refused locked distinct held refused
  case ignored =>
    intro key absent
    have kind := Preferences.kind?_writeAll locked values key
    rw [stored, ← Option.map_eq_none_iff (f := (·.kind))]
    exact kind.trans (Option.map_eq_none_iff.2 absent)
  case kinds =>
    rw [stored]
    exact Preferences.kind?_writeAll locked values
  case descriptions =>
    rw [stored]
    exact Preferences.description?_writeAll locked values
  case noted => exact Session.applyPreferences_notes locked values
  case anyOrder =>
    intro order permuted
    rw [stored, stored, Preferences.writeAll_perm locked ordered distinct permuted]
  case again =>
    rw [stored, Session.applyPreferences_host,
      Preferences.writeAll_writeAll locked ordered distinct]
  case command =>
    intro key names value trimmed
    exact Session.applyPreferences_eq_command t names trimmed s

/-- Configured preferences are applied to an initialised session key by key, and the keys of the
decompiler are among its keys. -/
theorem configured_preferences_applied {t : Transport τ} {before : Preferences}
    {w : World (Session τ)} (initialised : Initialised t before w) {values : Table String}
    (distinct : (values.map Prod.fst).Nodup) :
    AppliesPointwise t values w.host ∧
      ∀ pref ∈ Preference.all, NamesKey pref.key ∧ w.host.preferences.entry? pref.key ≠ none := by
  have settled : before.Settled w.host.preferences := initialised.settled
  exact ⟨w.host.appliesPointwise t settled.locked settled.ordered distinct,
    fun pref mem => ⟨namesKey_of_mem mem, settled.held mem⟩⟩

/-- Of a switch that is set, a value that a switch refuses, a theme with white space around it and
an unknown key, the switch and the theme are taken, and the other two passed over. -/
theorem configured_preferences_applied_mixed :
    let t := constantTransport ""
    let w := (Frontend.init ⟨t, meddlingSetup⟩ { host := { transport := () } }).2
    let values : Table String :=
      [("r2dec.asm", "maybe"), ("r2dec.theme", " dark "), ("r2dec.unknown", "x"),
        ("r2dec.xrefs", "1")]
    let s := (w.host.applyPreferences values).2
    Initialised t {} w ∧ (values.map Prod.fst).Nodup ∧ AppliesPointwise t values w.host ∧
      s.preferences.get? "r2dec.asm" = some "false" ∧
      s.preferences.get? "r2dec.theme" = some " dark " ∧
      s.preferences.get? "r2dec.xrefs" = some "true" := by
  intro t w values s
  have initialised : Initialised t {} w := .start meddlingSetup rfl .nil
  have distinct : (values.map Prod.fst).Nodup := by decide
  have evaluated : s.preferences.get? "r2dec.asm" = some "false" ∧
      s.preferences.get? "r2dec.theme" = some " dark " ∧
      s.preferences.get? "r2dec.xrefs" = some "true" := by
    decide +kernel
  exact ⟨initialised, distinct, (configured_preferences_applied initialised distinct).1, evaluated⟩

end DecompilerBridge.Shell
