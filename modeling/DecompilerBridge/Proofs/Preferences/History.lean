import DecompilerBridge.Proofs.Preferences.Registered
import DecompilerBridge.Proofs.Text.Utf8

/-!
# The store and the history of its calls

Everything that a store holds can be read off the calls that were made on it: which keys there are,
of what kind, with which value and which help text, whether the store is locked, and how the next
call will be answered.

A history lists the calls that change a store, each with what came of it (`Event`). Registration
makes calls of its own, which count. `Made` relates a store, the calls made on it and the store
after them; `Refines` is the invariant that ties a new store to its history. One call keeps it
(`Refines.step`), hence every sequence does (`Refines.of_made`), and all that can be observed of a
store follows from it (`Refines.followsHistory`).
-/

set_option autoImplicit false

namespace DecompilerBridge

/-! ## Tables in key order -/

namespace Table

variable {α : Type}

/-- A table with a written key holds it and the keys from before. -/
theorem mem_keys_insert {key other : String} {value : α} {t : Table α} :
    other ∈ (insert key value t).map Prod.fst ↔ other = key ∨ other ∈ t.map Prod.fst := by
  induction t with
  | nil => simp [insert]
  | cons p rest ih =>
    obtain ⟨k, v⟩ := p
    by_cases same : k = key
    · simp [insert, same]
    · by_cases before : key < k
      · simp [insert, same, before]
      · simp only [insert, same, before, if_false, List.map_cons, List.mem_cons, ih]
        exact or_left_comm

/-- A table stays in key order when a key is given a value. -/
theorem insert_sorted {t : Table α} (sorted : (t.map Prod.fst).Pairwise (· < ·)) (key : String)
    (value : α) : ((insert key value t).map Prod.fst).Pairwise (· < ·) := by
  induction t with
  | nil => simp [insert]
  | cons p rest ih =>
    obtain ⟨k, v⟩ := p
    rw [List.map_cons, List.pairwise_cons] at sorted
    obtain ⟨first, later⟩ := sorted
    by_cases same : k = key
    · subst same
      simp only [insert, if_true, List.map_cons, List.pairwise_cons]
      exact ⟨first, later⟩
    · by_cases before : key < k
      · simp only [insert, same, before, if_true, if_false, List.map_cons, List.pairwise_cons,
          List.mem_cons]
        refine ⟨?_, first, later⟩
        rintro other (rfl | mem)
        · exact before
        · exact String.lt_trans before (first other mem)
      · have after : k < key := Std.lt_of_le_of_ne (String.not_lt.1 before) same
        simp only [insert, same, before, if_false, List.map_cons, List.pairwise_cons]
        refine ⟨?_, ih later⟩
        intro other mem
        rcases mem_keys_insert.1 mem with rfl | mem
        · exact after
        · exact first other mem

/-- A table without repeated keys holds under a key what it lists with it. -/
theorem find?_eq_some_iff {t : Table α} (distinct : (t.map Prod.fst).Nodup) {key : String}
    {value : α} : t.find? key = some value ↔ (key, value) ∈ t := by
  induction t with
  | nil => simp
  | cons first rest ih =>
    obtain ⟨k, v⟩ := first
    rw [List.map_cons, List.nodup_cons] at distinct
    by_cases same : k = key
    · subst same
      have absent : (k, value) ∉ rest := fun mem => distinct.1 (List.mem_map.2 ⟨_, mem, rfl⟩)
      simp [find?, absent, eq_comm]
    · have other : (key, value) ≠ (k, v) := fun h => same (congrArg Prod.fst h).symm
      simp [find?, same, other, ih distinct.2]

/-- A table in key order lists exactly the values that can be looked up. -/
theorem mem_iff_find? {t : Table α} (sorted : (t.map Prod.fst).Pairwise (· < ·)) {key : String}
    {value : α} : (key, value) ∈ t ↔ t.find? key = some value :=
  (find?_eq_some_iff (sorted.imp String.ne_of_lt)).symm

end Table

namespace Preferences

/-! ## Stores in key order -/

/-- The keys of a store stand in their order. -/
def InKeyOrder (p : Preferences) : Prop := (p.entries.map Prod.fst).Pairwise (· < ·)

namespace InKeyOrder

variable {p : Preferences}

/-- A store lists its keys in the order of their bytes. -/
theorem listing_increasing (ordered : p.InKeyOrder) :
    (p.listing.map Prod.fst).Pairwise fun a b => Text.utf8 a < Text.utf8 b := by
  have keys : p.listing.map Prod.fst = p.entries.map Prod.fst := by
    simp [listing, Function.comp_def]
  rw [keys]
  exact ordered.imp Text.utf8_lt_utf8

/-- A store lists what can be read. -/
theorem mem_listing_iff (ordered : p.InKeyOrder) {key value : String} :
    (key, value) ∈ p.listing ↔ p.get? key = some value := by
  simp only [listing, get?, List.mem_map, Prod.mk.injEq, Option.map_eq_some_iff]
  constructor
  · rintro ⟨⟨k, entry⟩, mem, rfl, rfl⟩
    exact ⟨entry, (Table.mem_iff_find? ordered).1 mem, rfl⟩
  · rintro ⟨entry, found, rfl⟩
    exact ⟨(key, entry), (Table.mem_iff_find? ordered).2 found, rfl, rfl⟩

end InKeyOrder

/-! ## Calls and their histories -/

/-- A call that can change a store. -/
inductive Call where
  | lock (locked : Bool)
  | set (key value : String)
  | describe (key text : String)
deriving DecidableEq, Repr

/-- The store after a call, unless the call is refused. -/
def attempt (p : Preferences) : Call → Except PreferenceError Preferences
  | .lock locked => .ok (p.lock locked)
  | .set key value => p.set key value
  | .describe key text => p.describe key text

/-- What comes of a call. -/
def outcome (p : Preferences) (c : Call) : Except PreferenceError Unit :=
  match p.attempt c with
  | .ok _ => .ok ()
  | .error e => .error e

/-- The store after a call. -/
def after (p : Preferences) (c : Call) : Preferences :=
  match p.attempt c with
  | .ok changed => changed
  | .error _ => p

/-- A call that was made, and what came of it. -/
structure Event where
  call : Call
  outcome : Except PreferenceError Unit

/-- The events of calls that are made in order, up to the first that is refused. -/
def eventsUpToRefusal : List Call → Preferences → List Event
  | [], _ => []
  | c :: rest, p =>
    ⟨c, p.outcome c⟩ ::
      match p.attempt c with
      | .ok changed => eventsUpToRefusal rest changed
      | .error _ => []

/-- The calls that register a preference. -/
def registrationCalls (pref : Preference) : List Call :=
  [.set pref.key pref.initial, .describe pref.key pref.description]

/-- What can be done to a store: a single call, or the registration of all preferences. -/
inductive Operation where
  | call (c : Call)
  | register
deriving DecidableEq, Repr

/-- The store after an operation. -/
def perform (p : Preferences) : Operation → Preferences
  | .call c => p.after c
  | .register => p.register.1

/-- The events of an operation. -/
def events (p : Preferences) : Operation → List Event
  | .call c => [⟨c, p.outcome c⟩]
  | .register =>
    ⟨.lock false, .ok ()⟩ ::
      (eventsUpToRefusal (Preference.all.flatMap registrationCalls) (p.lock false) ++
        [⟨.lock true, .ok ()⟩])

/-- The store after operations in order. -/
def performAll : List Operation → Preferences → Preferences
  | [], p => p
  | op :: rest, p => performAll rest (p.perform op)

/-- The events of operations in order. -/
def history : List Operation → Preferences → List Event
  | [], _ => []
  | op :: rest, p => p.events op ++ history rest (p.perform op)

/-- Calls made one after the other lead from one store to another. -/
inductive Made : Preferences → List Event → Preferences → Prop where
  | nil (p : Preferences) : Made p [] p
  | cons {p q : Preferences} {rest : List Event} (c : Call) :
      Made (p.after c) rest q → Made p (⟨c, p.outcome c⟩ :: rest) q

namespace Made

/-- A call makes its own event. -/
theorem single (p : Preferences) (c : Call) : Made p [⟨c, p.outcome c⟩] (p.after c) :=
  .cons c (.nil _)

/-- What is made in two parts is made in one. -/
theorem append {p q r : Preferences} {first second : List Event} (h : Made p first q)
    (h' : Made q second r) : Made p (first ++ second) r := by
  induction h with
  | nil => exact h'
  | cons c _ ih => exact .cons c (ih h')

/-- Every call of a sequence was made on the store after the calls before it. -/
theorem at_event {p q : Preferences} {earlier later : List Event} {e : Event}
    (h : Made p (earlier ++ e :: later) q) :
    ∃ r, Made p earlier r ∧ e.outcome = r.outcome e.call := by
  induction earlier generalizing p with
  | nil =>
    cases h
    exact ⟨p, .nil p, rfl⟩
  | cons first rest ih =>
    cases h with
    | cons c made =>
      obtain ⟨r, reached, same⟩ := ih made
      exact ⟨r, .cons c reached, same⟩

end Made

/-- An attempt to set is a write. -/
theorem attempt_set (p : Preferences) (key value : String) :
    p.attempt (.set key value) = p.set key value := rfl

/-- An attempt to describe is a description. -/
theorem attempt_describe (p : Preferences) (key text : String) :
    p.attempt (.describe key text) = p.describe key text := rfl

/-- Registration makes the calls of each preference in order, up to the first refusal. -/
theorem registerEach_made (prefs : List Preference) (p : Preferences) :
    Made p (eventsUpToRefusal (prefs.flatMap registrationCalls) p) (registerEach prefs p).1 := by
  induction prefs generalizing p with
  | nil => exact .nil p
  | cons pref rest ih =>
    have set := Made.single p (.set pref.key pref.initial)
    simp only [List.flatMap_cons, registrationCalls, List.cons_append, List.nil_append,
      eventsUpToRefusal, registerEach, registerOne, attempt_set]
    cases written : p.set pref.key pref.initial with
    | error e =>
      simpa [after, attempt, written] using set
    | ok changed =>
      have described := Made.single changed (.describe pref.key pref.description)
      simp only [after, attempt, written] at set
      refine set.append ?_
      simp only [attempt_describe]
      cases told : changed.describe pref.key pref.description with
      | error e => simpa [after, attempt, told] using described
      | ok final =>
        simp only [after, attempt, told] at described
        exact described.append (ih final)

/-- An operation makes its events. -/
theorem perform_made (p : Preferences) (op : Operation) : Made p (p.events op) (p.perform op) := by
  cases op with
  | call c => exact .single p c
  | register =>
    have unlocked : Made p [⟨.lock false, .ok ()⟩] (p.lock false) := .single p (.lock false)
    have relocked := Made.single (registerEach Preference.all (p.lock false)).1 (.lock true)
    exact unlocked.append ((registerEach_made Preference.all (p.lock false)).append relocked)

/-- Operations make their history. -/
theorem performAll_made (ops : List Operation) (p : Preferences) :
    Made p (history ops p) (performAll ops p) := by
  induction ops generalizing p with
  | nil => exact .nil p
  | cons op rest ih => exact (p.perform_made op).append (ih (p.perform op))

/-- Operations are performed one after the other. -/
theorem performAll_append (ops more : List Operation) (p : Preferences) :
    performAll (ops ++ more) p = performAll more (performAll ops p) := by
  induction ops generalizing p with
  | nil => rfl
  | cons op rest ih => exact ih (p.perform op)

/-! ## What a history tells -/

/-- The value that a call wrote to a key, if it did and was not refused. -/
def Event.written? (key : String) : Event → Option String
  | ⟨.set k value, .ok ()⟩ => if k = key then some value else none
  | _ => none

/-- The help text that a call gave to a key, if it did and was not refused. -/
def Event.described? (key : String) : Event → Option String
  | ⟨.describe k text, .ok ()⟩ => if k = key then some text else none
  | _ => none

/-- The lock that a call set, if it did. -/
def Event.locking? : Event → Option Bool
  | ⟨.lock locked, _⟩ => some locked
  | _ => none

/-- The values that were written to a key, in order. -/
def writes (key : String) (events : List Event) : List String :=
  events.filterMap (Event.written? key)

/-- The help texts that were given to a key, in order. -/
def texts (key : String) (events : List Event) : List String :=
  events.filterMap (Event.described? key)

/-- The locks that were set, in order. -/
def lockings (events : List Event) : List Bool := events.filterMap Event.locking?

/-- The spelling under which a key of some kind keeps a value that it accepts. -/
def spelled (kind : PreferenceKind) (value : String) : String :=
  match kind with
  | .switch => if value = "1" then "true" else if value = "0" then "false" else value
  | .text => value

/-- What a key should hold after a history: the kind comes from the first value that was written to
it, the value from the last. -/
def expectedEntry (events : List Event) (key : String) : Option PreferenceEntry :=
  match (writes key events).head?, (writes key events).getLast? with
  | some first, some last =>
    some ⟨spelled (.ofInitial first) last, .ofInitial first,
      (texts key events).getLast?.getD ""⟩
  | _, _ => none

/-- One more event adds what it writes. -/
@[simp] theorem writes_concat (key : String) (events : List Event) (e : Event) :
    writes key (events ++ [e]) = writes key events ++ (e.written? key).toList := by
  cases written : e.written? key <;> simp [writes, written]

/-- One more event adds what it describes. -/
@[simp] theorem texts_concat (key : String) (events : List Event) (e : Event) :
    texts key (events ++ [e]) = texts key events ++ (e.described? key).toList := by
  cases described : e.described? key <;> simp [texts, described]

/-- One more event adds its lock. -/
@[simp] theorem lockings_concat (events : List Event) (e : Event) :
    lockings (events ++ [e]) = lockings events ++ e.locking?.toList := by
  cases locking : e.locking? <;> simp [lockings, locking]

/-- A key was written if some write of it was not refused. -/
theorem writes_ne_nil_iff {key : String} {events : List Event} :
    writes key events ≠ [] ↔ ∃ value, ⟨.set key value, .ok ()⟩ ∈ events := by
  constructor
  · intro written
    obtain ⟨value, mem⟩ := List.exists_mem_of_ne_nil _ written
    obtain ⟨⟨c, result⟩, made, wrote⟩ := List.mem_filterMap.1 mem
    cases c with
    | set k v =>
      cases result with
      | ok _ =>
        simp only [Event.written?, Option.ite_none_right_eq_some] at wrote
        obtain ⟨rfl, -⟩ := wrote
        exact ⟨v, made⟩
      | error e => simp [Event.written?] at wrote
    | lock locked => simp [Event.written?] at wrote
    | describe k text => simp [Event.written?] at wrote
  · rintro ⟨value, made⟩ none
    have mem : value ∈ writes key events :=
      List.mem_filterMap.2 ⟨⟨.set key value, .ok ()⟩, made, by simp [Event.written?]⟩
    rw [none] at mem
    cases mem

/-! ## The invariant -/

/-- A store is as its history says. -/
structure Refines (events : List Event) (p : Preferences) : Prop where
  locked : p.locked = (lockings events).getLast?.getD false
  entry : ∀ key, p.entry? key = expectedEntry events key
  /-- No key has a help text before it has a value. -/
  undescribed : ∀ key, writes key events = [] → texts key events = []
  sorted : (p.entries.map Prod.fst).Pairwise (· < ·)

/-- The spelling under which a switch keeps a value is the one under which it accepts it. -/
theorem spelled_of_accept {kind : PreferenceKind} {value stored : String}
    (accepted : kind.accept value = some stored) : spelled kind value = stored := by
  cases kind with
  | text =>
    cases accepted
    rfl
  | switch =>
    simp only [PreferenceKind.accept, parseSwitch?] at accepted
    split at accepted
    · next on =>
      cases accepted
      rcases on with rfl | rfl <;> rfl
    · split at accepted
      · next off =>
        cases accepted
        rcases off with rfl | rfl <;> rfl
      · cases accepted

/-- The first value of a key is kept as it is. -/
theorem spelled_initial (value : String) : spelled (.ofInitial value) value = value := by
  unfold PreferenceKind.ofInitial
  split
  · next named => rcases named with rfl | rfl <;> rfl
  · rfl

/-- A history that gives a key no value expects no entry. -/
theorem writes_eq_nil_of_expected {events : List Event} {key : String}
    (absent : expectedEntry events key = none) : writes key events = [] := by
  cases given : writes key events with
  | nil => rfl
  | cons first rest =>
    simp only [expectedEntry, given, List.head?_cons] at absent
    cases last : (first :: rest).getLast? with
    | none => simp at last
    | some value => simp [last] at absent

/-- An entry that a history expects tells the first and the last value of the key. -/
theorem expectedEntry_cases {events : List Event} {key : String} {entry : PreferenceEntry}
    (expected : expectedEntry events key = some entry) :
    ∃ first last, (writes key events).head? = some first ∧
      (writes key events).getLast? = some last ∧
      entry = ⟨spelled (.ofInitial first) last, .ofInitial first,
        (texts key events).getLast?.getD ""⟩ := by
  unfold expectedEntry at expected
  split at expected
  · next first last start finish =>
    cases expected
    exact ⟨first, last, start, finish, rfl⟩
  · cases expected

/-- What is expected of a key depends only on what was written to it and told about it. -/
theorem expectedEntry_congr {events events' : List Event} {key : String}
    (written : writes key events' = writes key events)
    (told : texts key events' = texts key events) :
    expectedEntry events' key = expectedEntry events key := by
  simp only [expectedEntry, written, told]

namespace Refines

variable {events : List Event} {p : Preferences}

/-- A new store has no history. -/
theorem new : Refines [] {} where
  locked := rfl
  entry _ := rfl
  undescribed _ _ := rfl
  sorted := .nil

/-- An event that wrote nothing, told nothing and set no lock changes nothing. -/
theorem silent (h : Refines events p) {e : Event} (unlocking : e.locking? = none)
    (written : ∀ key, e.written? key = none) (described : ∀ key, e.described? key = none) :
    Refines (events ++ [e]) p where
  locked := by simpa [unlocking] using h.locked
  entry key := by
    rw [h.entry key]
    exact (expectedEntry_congr (by simp [written key]) (by simp [described key])).symm
  undescribed key := by simpa [written key, described key] using h.undescribed key
  sorted := h.sorted

/-- A lock is told by the last one. -/
theorem lock (h : Refines events p) (locked : Bool) :
    Refines (events ++ [⟨.lock locked, .ok ()⟩]) (p.lock locked) where
  locked := by simp [Event.locking?, Preferences.lock]
  entry key := by
    have same := h.entry key
    rw [show Preferences.entry? (p.lock locked) key = p.entry? key from rfl, same]
    exact (expectedEntry_congr (by simp [Event.written?]) (by simp [Event.described?])).symm
  undescribed key := by simpa [Event.written?, Event.described?] using h.undescribed key
  sorted := h.sorted

/-- A write that succeeds is told by the writes of its key. -/
theorem set (h : Refines events p) {key value : String} {changed : Preferences}
    (written : p.set key value = .ok changed) :
    Refines (events ++ [⟨.set key value, .ok ()⟩]) changed := by
  -- Whether the key is there or not, the entry that is written is the one that is expected.
  have expected : ∃ entry,
      changed = { p with entries := p.entries.insert key entry } ∧
        expectedEntry (events ++ [⟨.set key value, .ok ()⟩]) key = some entry := by
    rcases set_cases written with ⟨entry, stored, found, accepted, rfl⟩ | ⟨absent, -, rfl⟩
    · rw [h.entry key] at found
      obtain ⟨first, last, start, -, rfl⟩ := expectedEntry_cases found
      refine ⟨_, rfl, ?_⟩
      simp [expectedEntry, Event.written?, Event.described?, List.head?_append, start,
        spelled_of_accept accepted]
    · rw [h.entry key] at absent
      have unwritten := writes_eq_nil_of_expected absent
      refine ⟨_, rfl, ?_⟩
      simp [expectedEntry, Event.written?, Event.described?, unwritten, h.undescribed key unwritten,
        spelled_initial]
  obtain ⟨entry, rfl, expects⟩ := expected
  refine ⟨by simpa [Event.locking?] using h.locked, ?_, ?_, Table.insert_sorted h.sorted _ _⟩
  · intro other
    by_cases same : other = key
    · subst same
      rw [expects]
      exact Table.find?_insert_self _ _ _
    · have unwritten : (Event.written? other ⟨.set key value, .ok ()⟩) = none := by
        simp [Event.written?, Ne.symm same]
      calc _ = p.entry? other := Table.find?_insert_of_ne same _ _
        _ = expectedEntry events other := h.entry other
        _ = _ := (expectedEntry_congr (by simp [unwritten]) (by simp [Event.described?])).symm
  · intro other unwritten
    rw [writes_concat, List.append_eq_nil_iff] at unwritten
    simpa [Event.described?] using h.undescribed other unwritten.1

/-- A description that succeeds is told by the last one of its key. -/
theorem describe (h : Refines events p) {key text : String} {changed : Preferences}
    (described : p.describe key text = .ok changed) :
    Refines (events ++ [⟨.describe key text, .ok ()⟩]) changed := by
  unfold Preferences.describe at described
  cases found : p.entry? key with
  | none => simp [found] at described
  | some entry =>
    simp only [found, Except.ok.injEq] at described
    subst described
    rw [h.entry key] at found
    obtain ⟨first, last, start, finish, rfl⟩ := expectedEntry_cases found
    refine ⟨by simpa [Event.locking?] using h.locked, ?_, ?_, Table.insert_sorted h.sorted _ _⟩
    · intro other
      by_cases same : other = key
      · subst same
        refine (Table.find?_insert_self _ _ _).trans ?_
        simp [expectedEntry, Event.written?, Event.described?, start, finish]
      · have untold : (Event.described? other ⟨.describe key text, .ok ()⟩) = none := by
          simp [Event.described?, Ne.symm same]
        calc _ = p.entry? other := Table.find?_insert_of_ne same _ _
          _ = expectedEntry events other := h.entry other
          _ = _ := (expectedEntry_congr (by simp [Event.written?]) (by simp [untold])).symm
    · intro other unwritten
      simp only [writes_concat, Event.written?, Option.toList_none, List.append_nil] at unwritten
      have different : key ≠ other := by
        rintro rfl
        rw [unwritten] at start
        cases start
      simpa [Event.described?, different] using h.undescribed other unwritten

/-- One call keeps a store as its history says. -/
theorem step (h : Refines events p) (c : Call) :
    Refines (events ++ [⟨c, p.outcome c⟩]) (p.after c) := by
  cases c with
  | lock locked => exact h.lock locked
  | set key value =>
    cases written : p.set key value with
    | ok changed => simpa [outcome, after, attempt, written] using h.set written
    | error e =>
      have refused : Refines (events ++ [⟨.set key value, .error e⟩]) p :=
        h.silent rfl (fun _ => rfl) (fun _ => rfl)
      simpa [outcome, after, attempt, written] using refused
  | describe key text =>
    cases described : p.describe key text with
    | ok changed => simpa [outcome, after, attempt, described] using h.describe described
    | error e =>
      have refused : Refines (events ++ [⟨.describe key text, .error e⟩]) p :=
        h.silent rfl (fun _ => rfl) (fun _ => rfl)
      simpa [outcome, after, attempt, described] using refused

/-- Every sequence of calls does. -/
theorem of_made {more : List Event} {q : Preferences} (h : Refines events p)
    (made : Made p more q) : Refines (events ++ more) q := by
  induction made generalizing events with
  | nil => simpa using h
  | cons c _ ih => simpa using ih (h.step c)

end Refines

/-! ## What can be observed -/

/-- What a history tells about a store, about what it lists, and about the next call on it. -/
structure FollowsHistory (events : List Event) (p : Preferences) : Prop where
  exists_iff : ∀ key, (p.get? key).isSome = true ↔ ∃ value, ⟨.set key value, .ok ()⟩ ∈ events
  switch_iff : ∀ key, p.kind? key = some .switch ↔
    (writes key events).head? = some "true" ∨ (writes key events).head? = some "false"
  value : ∀ key kind, p.kind? key = some kind →
    p.get? key = (writes key events).getLast?.map (spelled kind)
  description : ∀ key, p.description? key =
    (p.get? key).map fun _ => (texts key events).getLast?.getD ""
  locked : p.locked = (lockings events).getLast?.getD false
  set_outcome : ∀ key value, p.outcome (.set key value) =
    if p.kind? key = some .switch ∧ value ∉ ["true", "false", "1", "0"] then
      .error (.notBoolean key value)
    else if p.get? key = none ∧ p.locked = true then .error (.locked key)
    else .ok ()
  describe_outcome : ∀ key text, p.outcome (.describe key text) =
    if p.get? key = none then .error (.unknownKey key) else .ok ()
  refused : ∀ c e, p.outcome c = .error e → p.after c = p
  increasing : (p.listing.map Prod.fst).Pairwise fun a b => Text.utf8 a < Text.utf8 b
  listed : ∀ key value, (key, value) ∈ p.listing ↔ p.get? key = some value

/-- A key becomes a switch by the initial values `true` and `false`. -/
theorem ofInitial_eq_switch_iff {value : String} :
    PreferenceKind.ofInitial value = .switch ↔ value = "true" ∨ value = "false" := by
  unfold PreferenceKind.ofInitial
  split <;> simp_all

/-- A switch refuses every value but its four spellings. -/
theorem accept_switch_eq_none_iff {value : String} :
    PreferenceKind.switch.accept value = none ↔ value ∉ ["true", "false", "1", "0"] := by
  simp only [PreferenceKind.accept, parseSwitch?, Option.map_eq_none_iff]
  split
  · next on => rcases on with rfl | rfl <;> simp
  · next on =>
    split
    · next off => rcases off with rfl | rfl <;> simp
    · next off => simp_all

/-- How a write is answered. -/
theorem outcome_set (p : Preferences) (key value : String) : p.outcome (.set key value) =
    if p.kind? key = some .switch ∧ value ∉ ["true", "false", "1", "0"] then
      .error (.notBoolean key value)
    else if p.get? key = none ∧ p.locked = true then .error (.locked key)
    else .ok () := by
  rcases (p.entry? key).eq_none_or_eq_some with found | ⟨⟨held, kind, text⟩, found⟩
  · by_cases locked : p.locked = true <;>
      simp [outcome, attempt, Preferences.set, kind?, get?, found, locked]
  · cases kind with
    | text => simp [outcome, attempt, Preferences.set, kind?, get?, found, PreferenceKind.accept]
    | switch =>
      have kind : p.kind? key = some .switch := by simp [kind?, found]
      have held : p.get? key ≠ none := by simp [get?, found]
      have named := @accept_switch_eq_none_iff value
      cases accepted : PreferenceKind.switch.accept value with
      | none =>
        rw [if_pos ⟨kind, named.1 accepted⟩]
        simp [outcome, attempt, Preferences.set, found, accepted]
      | some stored =>
        have taken : PreferenceKind.switch.accept value ≠ none := by simp [accepted]
        rw [if_neg fun h => taken (named.2 h.2), if_neg fun h => held h.1]
        simp [outcome, attempt, Preferences.set, found, accepted]

/-- A description fails for an unknown key alone. -/
theorem outcome_describe (p : Preferences) (key text : String) : p.outcome (.describe key text) =
    if p.get? key = none then .error (.unknownKey key) else .ok () := by
  rcases (p.entry? key).eq_none_or_eq_some with found | ⟨entry, found⟩ <;>
    simp [outcome, attempt, Preferences.describe, get?, found]

/-- A call that is refused changes nothing. -/
theorem after_of_refused {p : Preferences} {c : Call} {e : PreferenceError}
    (refused : p.outcome c = .error e) : p.after c = p := by
  unfold outcome at refused
  unfold after
  cases attempted : p.attempt c with
  | ok changed => simp [attempted] at refused
  | error e => rfl

namespace Refines

variable {events : List Event} {p : Preferences}

/-- The first write of a key fixes its kind. -/
theorem kind?_eq (h : Refines events p) (key : String) :
    p.kind? key = (writes key events).head?.map PreferenceKind.ofInitial := by
  rw [kind?, h.entry key]
  cases expected : expectedEntry events key with
  | none => simp [writes_eq_nil_of_expected expected]
  | some entry =>
    obtain ⟨first, last, start, -, rfl⟩ := expectedEntry_cases expected
    simp [start]

/-- A key keeps its kind, whatever is called afterwards. -/
theorem kind?_fixed (h : Refines events p) {more : List Event} {q : Preferences}
    (made : Made p more q) {key : String} {kind : PreferenceKind}
    (given : p.kind? key = some kind) :
    q.kind? key = some kind := by
  rw [h.kind?_eq key] at given
  obtain ⟨first, start, rfl⟩ := Option.map_eq_some_iff.1 given
  rw [(h.of_made made).kind?_eq key, writes, List.filterMap_append, List.head?_append,
    show (List.filterMap (Event.written? key) events).head? = some first from start]
  rfl

/-- All that can be observed of a store follows from its history. -/
theorem followsHistory (h : Refines events p) : FollowsHistory events p where
  exists_iff key := by
    rw [← writes_ne_nil_iff, get?, h.entry key]
    cases expected : expectedEntry events key with
    | none => simp [writes_eq_nil_of_expected expected]
    | some entry =>
      obtain ⟨first, last, start, -⟩ := expectedEntry_cases expected
      have written : writes key events ≠ [] := by
        rintro none
        simp [none] at start
      simp [written]
  switch_iff key := by
    rw [h.kind?_eq key]
    cases (writes key events).head? with
    | none => simp
    | some first => simp [ofInitial_eq_switch_iff]
  value key kind given := by
    rw [kind?, h.entry key] at given
    rw [get?, h.entry key]
    cases expected : expectedEntry events key with
    | none => simp [expected] at given
    | some entry =>
      obtain ⟨first, last, -, finish, rfl⟩ := expectedEntry_cases expected
      simp only [expected, Option.map_some, Option.some.injEq] at given
      simp [finish, given]
  description key := by
    rw [description?, get?, h.entry key]
    cases expected : expectedEntry events key with
    | none => rfl
    | some entry =>
      obtain ⟨first, last, -, -, rfl⟩ := expectedEntry_cases expected
      rfl
  locked := h.locked
  set_outcome := p.outcome_set
  describe_outcome := p.outcome_describe
  refused _ _ := after_of_refused
  increasing := InKeyOrder.listing_increasing h.sorted
  listed _ _ := InKeyOrder.mem_listing_iff h.sorted

end Refines

/-- After any operations on a new store, registrations among them, the history of the calls tells
what the store holds, what it lists, and how the next call is answered. Every call of the history
was itself answered as the calls before it tell. A key keeps its kind through all later operations.
-/
theorem store_follows_history (ops : List Operation) :
    FollowsHistory (history ops {}) (performAll ops {}) ∧
      (∀ earlier e later, history ops {} = earlier ++ e :: later →
        ∃ p, Made {} earlier p ∧ FollowsHistory earlier p ∧ e.outcome = p.outcome e.call) ∧
      ∀ more key kind, (performAll ops {}).kind? key = some kind →
        (performAll (ops ++ more) {}).kind? key = some kind := by
  have made := performAll_made ops {}
  have refines : Refines (history ops {}) (performAll ops {}) := Refines.new.of_made made
  refine ⟨refines.followsHistory, ?_, ?_⟩
  · intro earlier e later split
    rw [split] at made
    obtain ⟨p, reached, same⟩ := made.at_event
    have refinesEarlier : Refines earlier p := Refines.new.of_made reached
    exact ⟨p, reached, refinesEarlier.followsHistory, same⟩
  · intro more key kind given
    rw [performAll_append]
    exact refines.kind?_fixed (performAll_made more (performAll ops {})) given

/-- A theme that was first set to `true` stays a switch: registration stops at it, and it takes `0`
afterwards. -/
theorem store_follows_history_misused :
    let ops : List Operation := [.call (.set "r2dec.theme" "true"), .register]
    (performAll ops {}).kind? "r2dec.theme" = some .switch ∧
      (performAll ops {}).outcome (.set "r2dec.theme" "default") =
        .error (.notBoolean "r2dec.theme" "default") ∧
      (performAll (ops ++ [.call (.set "r2dec.theme" "0")]) {}).kind? "r2dec.theme" =
        some .switch := by
  intro ops
  have kind : (performAll ops {}).kind? "r2dec.theme" = some .switch := by decide +kernel
  obtain ⟨follows, -, fixed⟩ := store_follows_history ops
  refine ⟨kind, ?_, fixed [.call (.set "r2dec.theme" "0")] _ _ kind⟩
  rw [follows.set_outcome, if_pos ⟨kind, by decide⟩]

end Preferences

end DecompilerBridge
