import DecompilerBridge.Proofs.Preferences.Registration

/-!
# Writes to a locked store

A write to a locked store changes no more than the value of the entry of its key, if there is an
entry and its kind accepts the value (`entry?_after_set`). Writes under distinct keys therefore
leave under each key what its own write leaves (`entry?_writeAll`).

A store in key order is known by what it holds under every key (`eq_of_entry?`), and calls keep it
in key order (`InKeyOrder.after`). So writes under distinct keys can be made in any order and again.

A store may hold any keys when the preferences of the decompiler are registered. From then on it has
these keys and the six of the decompiler, through every registration and every call but to unlock
(`Settled`).
-/

set_option autoImplicit false

namespace DecompilerBridge

/-- A kind refuses a value if it is a switch and the value is none of its spellings. -/
theorem PreferenceKind.accept_eq_none_iff {kind : PreferenceKind} {value : String} :
    kind.accept value = none ↔ kind = .switch ∧ value ∉ ["true", "false", "1", "0"] := by
  cases kind with
  | switch => simp only [Preferences.accept_switch_eq_none_iff, true_and]
  | text => simp [accept]

/-- An entry after a write of a value, which it passes over if its kind refuses it. -/
def PreferenceEntry.write (entry : PreferenceEntry) (value : String) : PreferenceEntry :=
  { entry with value := (entry.kind.accept value).getD entry.value }

/-- A value that is accepted is stored as the kind keeps it. -/
theorem PreferenceEntry.write_of_accept {entry : PreferenceEntry} {value stored : String}
    (accepted : entry.kind.accept value = some stored) :
    entry.write value = { entry with value := stored } := by
  rw [write, accepted, Option.getD_some]

/-- A value that is refused leaves the entry as it is. -/
theorem PreferenceEntry.write_of_refuse {entry : PreferenceEntry} {value : String}
    (refused : entry.kind.accept value = none) : entry.write value = entry := by
  rw [write, refused, Option.getD_none]

/-- A value that is written twice is written once. -/
theorem PreferenceEntry.write_write (entry : PreferenceEntry) (value : String) :
    (entry.write value).write value = entry.write value := by
  cases accepted : entry.kind.accept value with
  | none => rw [write_of_refuse accepted, write_of_refuse accepted]
  | some stored =>
    rw [write_of_accept accepted]
    exact write_of_accept accepted

namespace Preferences

variable {p q : Preferences}

/-! ## Stores in key order -/

/-- Every call keeps the keys in order. -/
theorem InKeyOrder.after (ordered : p.InKeyOrder) (c : Call) : (p.after c).InKeyOrder := by
  cases c with
  | lock locked => exact ordered
  | set key value =>
    cases written : p.set key value with
    | error e =>
      simp only [Preferences.after, attempt_set, written]
      exact ordered
    | ok changed =>
      simp only [Preferences.after, attempt_set, written]
      rcases set_cases written with ⟨entry, stored, -, -, rfl⟩ | ⟨-, -, rfl⟩ <;>
        exact Table.insert_sorted ordered _ _
  | describe key text =>
    cases found : p.entry? key with
    | none =>
      simp only [Preferences.after, attempt_describe, Preferences.describe, found]
      exact ordered
    | some entry =>
      simp only [Preferences.after, attempt_describe, Preferences.describe, found]
      exact Table.insert_sorted ordered _ _

/-- So does every sequence of calls. -/
theorem InKeyOrder.of_made {events : List Event} (ordered : p.InKeyOrder) (made : Made p events q) :
    q.InKeyOrder := by
  induction made with
  | nil => exact ordered
  | cons c _ ih => exact ih (ordered.after c)

/-- A store in key order is known by its lock and by what it holds under every key. -/
theorem eq_of_entry? (ordered : p.InKeyOrder) (orderedThen : q.InKeyOrder)
    (locked : p.locked = q.locked) (same : ∀ key, p.entry? key = q.entry? key) : p = q := by
  have entries : p.entries = q.entries := Table.eq_of_find? ordered orderedThen same
  rcases p with ⟨_, _⟩
  rcases q with ⟨_, _⟩
  cases entries
  cases locked
  rfl

/-! ## Writes -/

/-- A write does not touch the lock. -/
theorem locked_after_set (p : Preferences) (key value : String) :
    (p.after (.set key value)).locked = p.locked := by
  unfold Preferences.after
  rw [attempt_set]
  cases written : p.set key value with
  | error e => rfl
  | ok changed => rcases set_cases written with ⟨entry, stored, -, -, rfl⟩ | ⟨-, -, rfl⟩ <;> rfl

/-- A write that the kind of its key accepts changes the value under the key alone. -/
theorem set_of_accept {key value stored : String} {entry : PreferenceEntry}
    (found : p.entry? key = some entry) (accepted : entry.kind.accept value = some stored) :
    ∃ q, p.set key value = .ok q ∧ q.locked = p.locked ∧
      ∀ other,
        q.entry? other = if other = key then some (entry.write value) else p.entry? other := by
  refine ⟨{ p with entries := p.entries.insert key (entry.write value) }, ?_, rfl, fun other => ?_⟩
  · simp only [Preferences.set, found, accepted, PreferenceEntry.write_of_accept accepted]
  · exact Table.find?_insert key (entry.write value) p.entries other

/-- A switch refuses a value that is no switch value. -/
theorem set_of_refuse {key value : String} {entry : PreferenceEntry}
    (found : p.entry? key = some entry) (refused : entry.kind.accept value = none) :
    p.set key value = .error (.notBoolean key value) := by
  simp only [Preferences.set, found, refused]

/-- A locked store refuses a new key. -/
theorem set_of_absent {key : String} (locked : p.locked = true) (absent : p.entry? key = none)
    (value : String) : p.set key value = .error (.locked key) := by
  simp only [Preferences.set, absent, locked, if_true]

/-- Nothing changes where a key is given what is under it. -/
theorem entry?_eq_ite {key : String} {held : Option PreferenceEntry} (here : p.entry? key = held)
    (other : String) : p.entry? other = if other = key then held else p.entry? other := by
  split
  · next same => rw [same, here]
  · rfl

/-- A change of an entry neither takes a key away nor adds one. -/
theorem entry?_ite_eq_none_iff (f : PreferenceEntry → PreferenceEntry) (key other : String) :
    (if other = key then (p.entry? key).map f else p.entry? other) = none ↔
      p.entry? other = none := by
  split
  · next same => rw [same, Option.map_eq_none_iff]
  · exact Iff.rfl

/-- A write to a locked store changes the value under its key alone. -/
theorem entry?_after_set (locked : p.locked = true) (key value other : String) :
    entry? (p.after (.set key value)) other =
      if other = key then (p.entry? key).map (·.write value) else p.entry? other := by
  unfold Preferences.after
  rw [attempt_set]
  cases found : p.entry? key with
  | none =>
    rw [set_of_absent locked found]
    exact entry?_eq_ite found other
  | some entry =>
    cases accepted : entry.kind.accept value with
    | none =>
      rw [set_of_refuse found accepted, Option.map_some, PreferenceEntry.write_of_refuse accepted]
      exact entry?_eq_ite found other
    | some stored =>
      obtain ⟨q, written, -, entries⟩ := set_of_accept found accepted
      rw [written]
      exact entries other

/-- A write to a locked store leaves all of an entry alone but its value. -/
theorem map_entry?_after_set {α : Type} {f : PreferenceEntry → α}
    (kept : ∀ entry value, f (entry.write value) = f entry) (locked : p.locked = true)
    (key value other : String) :
    (Preferences.entry? (p.after (.set key value)) other).map f = (p.entry? other).map f := by
  rw [entry?_after_set locked]
  by_cases same : other = key
  · rw [if_pos same, same, Option.map_map]
    have unchanged : f ∘ (·.write value) = f := funext fun entry => kept entry value
    rw [unchanged]
  · rw [if_neg same]

/-- A locked store keeps the kinds of its keys. -/
theorem kind?_after_set (locked : p.locked = true) (key value other : String) :
    (p.after (.set key value)).kind? other = p.kind? other :=
  map_entry?_after_set (fun _ _ => rfl) locked key value other

/-- In a locked store a write does not decide about a later one. -/
theorem outcome_after_set (locked : p.locked = true) (key value other text : String) :
    (p.after (.set key value)).outcome (.set other text) = p.outcome (.set other text) := by
  have absent : ∀ q : Preferences, q.get? other = none ↔ q.kind? other = none := fun q => by
    rw [get?, kind?, Option.map_eq_none_iff, Option.map_eq_none_iff]
  simp only [outcome_set, absent, kind?_after_set locked, locked_after_set]

/-- The store after writes, one after the other, whether they are refused or not. -/
def writeAll (values : List (String × String)) (p : Preferences) : Preferences :=
  values.foldl (fun q e => q.after (.set e.1 e.2)) p

/-- Writes do not touch the lock. -/
theorem locked_writeAll (values : List (String × String)) (p : Preferences) :
    (p.writeAll values).locked = p.locked := by
  induction values generalizing p with
  | nil => rfl
  | cons first rest ih => exact (ih _).trans (p.locked_after_set first.1 first.2)

/-- Writes keep the keys in order. -/
theorem InKeyOrder.writeAll (ordered : p.InKeyOrder) (values : List (String × String)) :
    (p.writeAll values).InKeyOrder := by
  induction values generalizing p with
  | nil => exact ordered
  | cons first rest ih => exact ih (ordered.after _)

/-- Writes under distinct keys leave under each key what its own write leaves. -/
theorem entry?_writeAll (locked : p.locked = true) {values : Table String}
    (distinct : (values.map Prod.fst).Nodup) (key : String) :
    entry? (p.writeAll values) key =
      match values.find? key with
      | some value => (p.entry? key).map (·.write value)
      | none => p.entry? key := by
  induction values generalizing p with
  | nil => rfl
  | cons first rest ih =>
    obtain ⟨k, v⟩ := first
    rw [List.map_cons, List.nodup_cons] at distinct
    have later := ih ((p.locked_after_set k v).trans locked) distinct.2
    rw [entry?_after_set locked] at later
    refine later.trans ?_
    -- the keys are distinct, so no later write is under the key of the first
    by_cases same : key = k
    · subst same
      simp [Table.find?, Table.find?_of_not_mem distinct.1]
    · simp [Table.find?, same, Ne.symm same]

/-- What does not depend on the value of an entry is kept by writes. -/
theorem map_entry?_writeAll {α : Type} {f : PreferenceEntry → α}
    (kept : ∀ entry value, f (entry.write value) = f entry) (locked : p.locked = true)
    (values : List (String × String)) (key : String) :
    (Preferences.entry? (p.writeAll values) key).map f = (p.entry? key).map f := by
  induction values generalizing p with
  | nil => rfl
  | cons first rest ih =>
    have lockedThen : (p.after (.set first.1 first.2)).locked = true :=
      (p.locked_after_set _ _).trans locked
    exact (ih lockedThen).trans (map_entry?_after_set kept locked _ _ _)

/-- Writes to a locked store keep the kinds. -/
theorem kind?_writeAll (locked : p.locked = true) (values : List (String × String)) (key : String) :
    (p.writeAll values).kind? key = p.kind? key :=
  map_entry?_writeAll (fun _ _ => rfl) locked values key

/-- They keep the descriptions as well. -/
theorem description?_writeAll (locked : p.locked = true) (values : List (String × String))
    (key : String) : (p.writeAll values).description? key = p.description? key :=
  map_entry?_writeAll (fun _ _ => rfl) locked values key

/-- A key is left with the value that was written to it, if its kind accepts it. -/
theorem get?_writeAll_of_mem (locked : p.locked = true) {values : Table String}
    (distinct : (values.map Prod.fst).Nodup) {key value : String} (mem : (key, value) ∈ values)
    {entry : PreferenceEntry} (held : p.entry? key = some entry)
    (taken : entry.kind = .switch → value ∈ ["true", "false", "1", "0"]) :
    (p.writeAll values).get? key = some (spelled entry.kind value) := by
  have accepts : entry.kind.accept value ≠ none := by
    rw [Ne, PreferenceKind.accept_eq_none_iff]
    rintro ⟨isSwitch, none⟩
    exact none (taken isSwitch)
  obtain ⟨stored, accepted⟩ := Option.ne_none_iff_exists'.1 accepts
  rw [get?, entry?_writeAll locked distinct, (Table.find?_eq_some_iff distinct).2 mem, held]
  simp only [Option.map_some, PreferenceEntry.write_of_accept accepted, spelled_of_accept accepted]

/-- A key is left as it was if nothing was written to it that its kind accepts. -/
theorem entry?_writeAll_of_refused (locked : p.locked = true) {values : Table String}
    (distinct : (values.map Prod.fst).Nodup) {key : String} {entry : PreferenceEntry}
    (held : p.entry? key = some entry)
    (refused : ∀ value, (key, value) ∈ values →
      entry.kind = .switch ∧ value ∉ ["true", "false", "1", "0"]) :
    entry? (p.writeAll values) key = p.entry? key := by
  rw [entry?_writeAll locked distinct]
  cases written : values.find? key with
  | none => rfl
  | some value =>
    have refuses := PreferenceKind.accept_eq_none_iff.2
      (refused value ((Table.find?_eq_some_iff distinct).1 written))
    simp only [held, Option.map_some, PreferenceEntry.write_of_refuse refuses]

/-- Writes under distinct keys can be made in any order. -/
theorem writeAll_perm (locked : p.locked = true) (ordered : p.InKeyOrder)
    {values order : Table String}
    (distinct : (values.map Prod.fst).Nodup) (permuted : order.Perm values) :
    p.writeAll order = p.writeAll values := by
  have distinctThen : (order.map Prod.fst).Nodup := (permuted.map Prod.fst).nodup_iff.2 distinct
  refine eq_of_entry? (ordered.writeAll order) (ordered.writeAll values) ?_ fun key => ?_
  · rw [locked_writeAll, locked_writeAll]
  · have same : order.find? key = values.find? key := by
      refine Option.ext fun value => ?_
      rw [Table.find?_eq_some_iff distinctThen, Table.find?_eq_some_iff distinct, permuted.mem_iff]
    rw [entry?_writeAll locked distinctThen, entry?_writeAll locked distinct, same]

/-- Writes under distinct keys change nothing when they are made again. -/
theorem writeAll_writeAll (locked : p.locked = true) (ordered : p.InKeyOrder)
    {values : Table String} (distinct : (values.map Prod.fst).Nodup) :
    (p.writeAll values).writeAll values = p.writeAll values := by
  have lockedThen : (p.writeAll values).locked = true := (locked_writeAll values p).trans locked
  refine eq_of_entry? ((ordered.writeAll values).writeAll values) (ordered.writeAll values)
    (locked_writeAll values _) fun key => ?_
  rw [entry?_writeAll lockedThen distinct, entry?_writeAll locked distinct]
  cases values.find? key with
  | none => rfl
  | some value =>
    cases p.entry? key with
    | none => rfl
    | some entry => exact congrArg some (entry.write_write value)

/-! ## Stores that were registered with other keys -/

/-- Registration keeps the keys in order. -/
theorem InKeyOrder.register (ordered : p.InKeyOrder) : p.register.1.InKeyOrder := by
  have unlocked : (p.lock false).InKeyOrder := ordered
  have each : InKeyOrder (registerEach Preference.all (p.lock false)).1 :=
    unlocked.of_made (registerEach_made _ _)
  exact each

/-- A description does not touch the lock. -/
theorem locked_after_describe (p : Preferences) (key text : String) :
    (p.after (.describe key text)).locked = p.locked := by
  unfold Preferences.after
  rw [attempt_describe, Preferences.describe]
  cases p.entry? key <;> rfl

/-- A description changes the text of its own key alone. -/
theorem entry?_after_describe (p : Preferences) (key text other : String) :
    entry? (p.after (.describe key text)) other =
      if other = key then (p.entry? key).map ({ · with description := text })
      else p.entry? other := by
  unfold Preferences.after
  rw [attempt_describe, Preferences.describe]
  cases found : p.entry? key with
  | none => exact entry?_eq_ite found other
  | some entry => exact Table.find?_insert key { entry with description := text } p.entries other

/-- Registration adds its own keys and takes none away. -/
theorem Registers.absent_iff {prefs : List Preference} (registers : p.Registers prefs q)
    (key : String) :
    q.entry? key = none ↔ key ∉ prefs.map Preference.key ∧ p.entry? key = none := by
  by_cases mem : key ∈ prefs.map Preference.key
  · obtain ⟨pref, hpref, rfl⟩ := List.mem_map.1 mem
    simp only [registers.entry pref hpref, mem, not_true_eq_false, false_and, reduceCtorEq]
  · simp only [registers.others key mem, mem, not_false_eq_true, true_and]

/-- Registration adds the six keys of the decompiler, also when it refuses the theme: then the key
of the theme was there. -/
theorem register_absent_iff (p : Preferences) (key : String) :
    entry? p.register.1 key = none ↔
      key ∉ Preference.all.map Preference.key ∧ p.entry? key = none := by
  rcases register_cases p with ⟨-, -, six⟩ | ⟨isSwitch, -, five⟩
  · exact six.absent_iff key
  · -- five are registered, and the sixth was there
    have theme : p.entry? Preference.theme.key ≠ none := by
      intro absent
      rw [show Preference.themeKey = Preference.theme.key from rfl, kind?, absent] at isSwitch
      cases isSwitch
    refine (five.absent_iff key).trans (and_congr_left fun absent => ?_)
    have other : key ≠ Preference.theme.key := fun same => theme (same ▸ absent)
    rw [Preference.all_eq, List.map_append, List.mem_append, not_or]
    exact (and_iff_left (mt List.mem_singleton.1 other)).symm

/-- What registration leaves of a store, and no call but to unlock takes away: it is locked and in
key order, and has the keys of the decompiler and those that were there. -/
structure Settled (before p : Preferences) : Prop where
  locked : p.locked = true
  ordered : p.InKeyOrder
  absent_iff : ∀ key, p.entry? key = none ↔
    key ∉ Preference.all.map Preference.key ∧ before.entry? key = none

variable {before : Preferences}

/-- A store in key order is settled by its registration. -/
theorem InKeyOrder.settled (ordered : p.InKeyOrder) : Settled p p.register.1 where
  locked := rfl
  ordered := ordered.register
  absent_iff := register_absent_iff p

namespace Settled

/-- A settled store that is registered again stays settled. -/
theorem register (settled : Settled before p) : Settled before p.register.1 where
  locked := rfl
  ordered := settled.ordered.register
  absent_iff key := by
    rw [register_absent_iff, settled.absent_iff]
    exact and_self_left

/-- No call but to unlock takes keys away, or adds one. -/
theorem after (settled : Settled before p) {c : Call} (locking : c ≠ .lock false) :
    Settled before (p.after c) where
  locked := by
    cases c with
    | set key value => exact (p.locked_after_set key value).trans settled.locked
    | describe key text => exact (p.locked_after_describe key text).trans settled.locked
    | lock locked =>
      cases locked with
      | false => exact absurd rfl locking
      | true => rfl
  ordered := settled.ordered.after c
  absent_iff other := by
    rw [← settled.absent_iff]
    cases c with
    | set key value =>
      rw [entry?_after_set settled.locked]
      exact entry?_ite_eq_none_iff _ key other
    | describe key text =>
      rw [entry?_after_describe]
      exact entry?_ite_eq_none_iff _ key other
    | lock locked => exact Iff.rfl

/-- A settled store stays so after a write that succeeds. -/
theorem set {key value : String} (settled : Settled before p)
    (written : p.set key value = .ok q) : Settled before q := by
  have after : p.after (.set key value) = q := by
    rw [Preferences.after, attempt_set, written]
  have locking : Call.set key value ≠ .lock false := by
    intro same
    cases same
  rw [← after]
  exact settled.after locking

/-- The keys of the decompiler are there. -/
theorem held (settled : Settled before p) {pref : Preference} (mem : pref ∈ Preference.all) :
    p.entry? pref.key ≠ none := fun absent =>
  ((settled.absent_iff pref.key).1 absent).1 (List.mem_map_of_mem mem)

end Settled

end Preferences

end DecompilerBridge
