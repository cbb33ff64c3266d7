import DecompilerBridge.Proofs.Preferences.Writes
import DecompilerBridge.Proofs.Shell.Routing
import DecompilerBridge.Proofs.Shell.SessionPreferences

/-!
# Preference commands

The commands `e key`, `e key=value` and `e lead.` of a session, for keys that start with `r2dec.`.

Such a command is trimmed, loses its letter, and is trimmed again. What is left is the expression
without the white space at its end (`preferenceExpression?_named`). A write is split at its first
equals sign, which is the one after the key, whatever the value (`preferenceReply_write`). The store
then decides by the kind of the key. Whatever is done with a session after the registration of the
plugin, it has the keys of the decompiler and those that it had before (`Initialised.settled`), so
all that it can answer is known.
-/

set_option autoImplicit false

namespace DecompilerBridge.Shell

open Text

variable {τ : Type}

/-! ## Expressions -/

/-- A text that starts with the letters of the decompiler's keys loses white space at its end alone.
-/
theorem trim_named (rest : String) : trim (Preference.keyLead ++ rest) =
    Preference.keyLead ++ String.ofList (dropEndWhile isBlank rest.toList) := by
  have lead : String.ofList ('r' :: (['2', 'd', 'e', 'c'] ++ ['.'])) = Preference.keyLead := rfl
  have trimmed := trim_append_solid (c := 'r') (d := '.') (by decide) (by decide)
    ['2', 'd', 'e', 'c'] rest
  rwa [lead] at trimmed

/-- What a command says about the preferences of the decompiler is served as an expression. -/
theorem preferenceExpression?_named {text : String}
    (named : startsWith text Preference.keyLead = true) :
    preferenceExpression? ("e " ++ text) = some (trim text) := by
  obtain ⟨rest, rfl⟩ := startsWith_iff.1 named
  have lead : String.ofList ('e' :: ([' ', 'r', '2', 'd', 'e', 'c'] ++ ['.'])) =
      "e " ++ Preference.keyLead := rfl
  have whole := trim_append_solid (c := 'e') (d := '.') (by decide) (by decide)
    [' ', 'r', '2', 'd', 'e', 'c'] rest
  rw [lead, String.append_assoc, String.append_assoc] at whole
  have again : trim (Preference.keyLead ++ String.ofList (dropEndWhile isBlank rest.toList)) =
      Preference.keyLead ++ String.ofList (dropEndWhile isBlank rest.toList) := by
    rw [trim_named, String.toList_ofList, dropEndWhile_idem]
  have served : startsWith (Preference.keyLead ++ String.ofList (dropEndWhile isBlank rest.toList))
      Preference.keyLead = true := startsWith_iff.2 ⟨_, rfl⟩
  simp only [preferenceExpression?, whole, stripLead_eq_some_iff.2 rfl, again, served, if_true,
    trim_named]

/-- A command with such an expression is answered by the store, and radare2 is not asked. -/
theorem Session.command_named (t : Transport τ) (s : Session τ) {text : String}
    (named : startsWith text Preference.keyLead = true) :
    s.command t ("e " ++ text) = ((preferenceReply s.preferences (trim text)).1, [],
      { s with preferences := (preferenceReply s.preferences (trim text)).2 }) := by
  simp only [Session.command, preferenceExpression?_named named]

/-- A text that names one key: it has no equals sign, does not end with a dot, and has no white
space around it. -/
structure NamesKey (key : String) : Prop where
  named : startsWith key Preference.keyLead = true
  noEquals : '=' ∉ key.toList
  noDot : key.toList.getLast? ≠ some '.'
  trimmed : trim key = key

/-- The keys of the decompiler are such texts. -/
theorem namesKey_of_mem {pref : Preference} (mem : pref ∈ Preference.all) : NamesKey pref.key := by
  have every : ∀ pref ∈ Preference.all, startsWith pref.key Preference.keyLead = true ∧
      '=' ∉ pref.key.toList ∧ pref.key.toList.getLast? ≠ some '.' ∧ trim pref.key = pref.key := by
    decide +kernel
  obtain ⟨named, noEquals, noDot, trimmed⟩ := every pref mem
  exact ⟨named, noEquals, noDot, trimmed⟩

/-- A key that is named is read, or reported as unknown. -/
theorem preferenceReply_read {key : String} (names : NamesKey key) (p : Preferences) :
    preferenceReply p (trim key) =
      match p.get? key with
      | some value => (value ++ "\n", p)
      | none => ("ERROR: unknown config key '" ++ key ++ "'\n", p) := by
  rw [names.trimmed, preferenceReply, splitFirst_of_not_mem names.noEquals]
  cases p.get? key <;> simp only [if_neg names.noDot]

/-- A write is split after its key, whatever is written. -/
theorem preferenceReply_write {key : String} (names : NamesKey key) (value : String)
    (p : Preferences) : preferenceReply p (trim (key ++ "=" ++ value)) =
      match p.set key (trim value) with
      | .ok changed => ("", changed)
      | .error e => ("ERROR: " ++ e.message ++ "\n", p) := by
  obtain ⟨rest, whole⟩ := startsWith_iff.1 names.named
  have lead : String.ofList ('r' :: (("2dec.".toList ++ rest.toList) ++ ['='])) = key ++ "=" := by
    rw [whole, ← String.toList_inj]
    simp [Preference.keyLead]
  have trimmed := trim_append_solid (c := 'r') (d := '=') (by decide) (by decide)
    ("2dec.".toList ++ rest.toList) value
  rw [lead] at trimmed
  -- the key holds no equals sign, so the first one is that of the command, also if the value has
  -- some
  have split : splitFirst '=' (key ++ "=" ++ String.ofList (dropEndWhile isBlank value.toList)) =
      some (key, String.ofList (dropEndWhile isBlank value.toList)) :=
    splitFirst_append names.noEquals _
  rw [trimmed, preferenceReply, split]
  cases written : p.set key (trim value) <;>
    simp only [names.trimmed, trim_ofList_dropEndWhile, String.ofList_toList, written]

/-- A lead that ends with a dot is listed. -/
theorem preferenceReply_list {lead : String}
    (named : startsWith lead Preference.keyLead = true) (noEquals : '=' ∉ lead.toList)
    (dot : lead.toList.getLast? = some '.') (p : Preferences) :
    preferenceReply p (trim lead) = (preferenceListing p lead, p) := by
  obtain ⟨rest, whole⟩ := startsWith_iff.1 named
  have trimmed : trim lead = lead := by
    refine trim_of_ends (fun c first => ?_) fun c last => ?_
    · have letters : lead.toList = 'r' :: ("2dec.".toList ++ rest.toList) := by
        simp [whole, Preference.keyLead]
      rw [letters] at first
      cases first
      decide
    · rw [dot] at last
      cases last
      decide
  rw [trimmed, preferenceReply, splitFirst_of_not_mem noEquals]
  simp only [if_pos dot]

/-! ## What a session answers -/

/-- A write to a key that is there is refused with one error, and the session stays as it is, if
the key is a switch and the value without white space around it is none of its spellings. Otherwise
the reply is empty, the value is read back as the kind of the key keeps it, and all other keys, all
kinds and all help texts are as they were. -/
structure ReadsBack (t : Transport τ) (s : Session τ) (key value : String) : Prop where
  refused : s.preferences.kind? key = some .switch ∧ trim value ∉ ["true", "false", "1", "0"] →
    s.command t ("e " ++ key ++ "=" ++ value) =
      ("ERROR: '" ++ key ++ "' is a boolean, got '" ++ trim value ++ "'\n", [], s)
  taken : ¬(s.preferences.kind? key = some .switch ∧ trim value ∉ ["true", "false", "1", "0"]) →
    ∃ kind p, s.preferences.kind? key = some kind ∧
      s.command t ("e " ++ key ++ "=" ++ value) = ("", [], { s with preferences := p }) ∧
      ({ s with preferences := p } : Session τ).command t ("e " ++ key) =
        (Preferences.spelled kind (trim value) ++ "\n", [], { s with preferences := p }) ∧
      p.kind? key = some kind ∧ p.description? key = s.preferences.description? key ∧
      p.locked = s.preferences.locked ∧
      ∀ other, other ≠ key → p.entry? other = s.preferences.entry? other

/-- A key that is not there is neither read nor created. -/
structure RefusesUnknown (t : Transport τ) (s : Session τ) (key : String) : Prop where
  read : s.command t ("e " ++ key) = ("ERROR: unknown config key '" ++ key ++ "'\n", [], s)
  write : ∀ value, s.command t ("e " ++ key ++ "=" ++ value) =
    ("ERROR: config is locked, cannot create '" ++ key ++ "'\n", [], s)

/-- Each key with some letters in front is listed once with its value, in the order of the bytes. -/
def ListsKeys (t : Transport τ) (s : Session τ) (lead : String) : Prop :=
  ∃ entries : List (String × String),
    s.command t ("e " ++ lead) =
      (String.join (entries.map fun e => e.1 ++ " = " ++ e.2 ++ "\n"), [], s) ∧
    (entries.map Prod.fst).Pairwise (fun a b => utf8 a < utf8 b) ∧
    ∀ key value, (key, value) ∈ entries ↔
      s.preferences.get? key = some value ∧ startsWith key lead = true

/-- The text of a refusal by a switch. -/
theorem refusal_text (key value : String) :
    "ERROR: " ++ (PreferenceError.notBoolean key value).message ++ "\n" =
      "ERROR: '" ++ key ++ "' is a boolean, got '" ++ value ++ "'\n" := by
  have front : "ERROR: '" = "ERROR: " ++ "'" := by decide
  have back : "'\n" = "'" ++ "\n" := by decide
  have message : (PreferenceError.notBoolean key value).message =
      "'" ++ key ++ "' is a boolean, got '" ++ value ++ "'" := rfl
  simp only [message, front, back, String.append_assoc]

/-- The text of a refusal by a locked store. -/
theorem locked_text (key : String) :
    "ERROR: " ++ (PreferenceError.locked key).message ++ "\n" =
      "ERROR: config is locked, cannot create '" ++ key ++ "'\n" := by
  have front : "ERROR: config is locked, cannot create '" =
      "ERROR: " ++ "config is locked, cannot create '" := by decide
  have back : "'\n" = "'" ++ "\n" := by decide
  have message : (PreferenceError.locked key).message =
      "config is locked, cannot create '" ++ key ++ "'" := rfl
  simp only [message, front, back, String.append_assoc]

namespace Session

variable (t : Transport τ) {s : Session τ} {key : String}

/-- A command that names a key reads it. -/
theorem command_read (names : NamesKey key) (s : Session τ) : s.command t ("e " ++ key) =
    match s.preferences.get? key with
    | some value => (value ++ "\n", [], s)
    | none => ("ERROR: unknown config key '" ++ key ++ "'\n", [], s) := by
  rw [command_named t s names.named, preferenceReply_read names]
  cases s.preferences.get? key <;> rfl

/-- A command that names a key and a value writes it. -/
theorem command_write (names : NamesKey key) (value : String) (s : Session τ) :
    s.command t ("e " ++ key ++ "=" ++ value) =
      match s.preferences.set key (trim value) with
      | .ok changed => ("", [], { s with preferences := changed })
      | .error e => ("ERROR: " ++ e.message ++ "\n", [], s) := by
  obtain ⟨rest, whole⟩ := startsWith_iff.1 names.named
  have named : startsWith (key ++ "=" ++ value) Preference.keyLead = true := by
    rw [whole, String.append_assoc, String.append_assoc]
    exact startsWith_iff.2 ⟨_, rfl⟩
  have written := command_named t s named
  rw [preferenceReply_write names, ← String.append_assoc, ← String.append_assoc] at written
  rw [written]
  cases s.preferences.set key (trim value) <;> rfl

/-- A key with an entry reads back what the kind keeps of a value. -/
theorem readsBack (names : NamesKey key) {entry : PreferenceEntry}
    (held : s.preferences.entry? key = some entry) (value : String) : ReadsBack t s key value := by
  have kind : s.preferences.kind? key = some entry.kind := by
    rw [Preferences.kind?, held, Option.map_some]
  have refuses : entry.kind.accept (trim value) = none ↔
      s.preferences.kind? key = some .switch ∧ trim value ∉ ["true", "false", "1", "0"] := by
    rw [PreferenceKind.accept_eq_none_iff, kind, Option.some_inj]
  constructor
  case refused =>
    intro refused
    rw [command_write t names, Preferences.set_of_refuse held (refuses.2 refused), ← refusal_text]
  case taken =>
    intro taken
    obtain ⟨stored, accepted⟩ := Option.ne_none_iff_exists'.1 (mt refuses.1 taken)
    obtain ⟨p, written, locked, entries⟩ := Preferences.set_of_accept held accepted
    have under : p.entry? key = some { entry with value := stored } := by
      rw [entries, if_pos rfl, PreferenceEntry.write_of_accept accepted]
    have read : p.get? key = some (Preferences.spelled entry.kind (trim value)) := by
      rw [Preferences.get?, under, Preferences.spelled_of_accept accepted, Option.map_some]
    refine ⟨entry.kind, p, kind, ?_, ?_, ?_, ?_, locked, fun other different => ?_⟩
    · rw [command_write t names, written]
    · rw [command_read t names, read]
    · rw [Preferences.kind?, under, Option.map_some]
    · rw [Preferences.description?, Preferences.description?, under, held, Option.map_some,
        Option.map_some]
    · rw [entries, if_neg different]

/-- A key without an entry is refused. -/
theorem refusesUnknown (names : NamesKey key) (locked : s.preferences.locked = true)
    (absent : s.preferences.entry? key = none) : RefusesUnknown t s key where
  read := by
    rw [command_read t names, Preferences.get?, absent, Option.map_none]
  write value := by
    rw [command_write t names, Preferences.set_of_absent locked absent, ← locked_text]

/-- A lead is listed in key order. -/
theorem listsKeys {lead : String} (ordered : s.preferences.InKeyOrder)
    (named : startsWith lead Preference.keyLead = true) (noEquals : '=' ∉ lead.toList)
    (dot : lead.toList.getLast? = some '.') : ListsKeys t s lead := by
  refine ⟨s.preferences.listing.filter fun e => startsWith e.1 lead, ?_, ?_, fun key value => ?_⟩
  · rw [command_named t s named, preferenceReply_list named noEquals dot]
    rfl
  · exact ordered.listing_increasing.sublist (List.Sublist.map _ List.filter_sublist)
  · rw [List.mem_filter, ordered.mem_listing_iff]

end Session

/-! ## Initialised sessions -/

/-- The worlds of a session that the plugin was registered with: after the registration, which finds
the preferences `before`, and after whatever is done with the session later, be it another
registration, configured preferences, a line, a command, a call of its store, at any point of a run
of the scripts, or a change of anything but the preferences. A store is in key order from the start
on (`Preferences.InKeyOrder.after`). Nothing but a registration unlocks it, which locks it again. -/
inductive Initialised (t : Transport τ) (before : Preferences) : World (Session τ) → Prop where
  | start (setup : Setup) {w : World (Session τ)} : w.host.preferences = before →
      before.InKeyOrder → Initialised t before (Frontend.init ⟨t, setup⟩ w).2
  | again (setup : Setup) {w : World (Session τ)} : Initialised t before w →
      Initialised t before (Frontend.init ⟨t, setup⟩ w).2
  | configured (values : Table String) {w : World (Session τ)} : Initialised t before w →
      Initialised t before (Frontend.applyPreferences values w)
  | line (setup : Setup) (text : String) {w : World (Session τ)} : Initialised t before w →
      Initialised t before (Frontend.execute ⟨t, setup⟩ text w).2
  | command (text : String) {w : World (Session τ)} : Initialised t before w →
      Initialised t before { w with host := (w.host.command t text).2.2 }
  | call (c : Preferences.Call) {w : World (Session τ)} : Initialised t before w →
      c ≠ .lock false → Initialised t before
        { w with host := { w.host with preferences := w.host.preferences.after c } }
  | running (setup : Setup) (args : String) {w v : World (Session τ)} {rest} :
      Initialised t before w →
      Interaction.Reaches (World.answer (some (Frontend.channel ⟨t, setup⟩)))
        (Invocation.reported setup args) (w.withLinkage .linked) rest v → Initialised t before v
  | elsewhere {w v : World (Session τ)} : Initialised t before w →
      v.host.preferences = w.host.preferences → Initialised t before v

variable {before : Preferences}

/-- Writes keep a store settled. -/
theorem settled_kept (before : Preferences) :
    Preferences.KeptByWrites (Preferences.Settled before) :=
  fun settled written => settled.set written

/-- A session is settled once the plugin is registered. -/
theorem Initialised.settled {t : Transport τ} {w : World (Session τ)}
    (initialised : Initialised t before w) : before.Settled w.host.preferences := by
  induction initialised with
  | @start setup w same ordered =>
    rw [(Frontend.init_host ⟨t, setup⟩ w).1, same]
    exact ordered.settled
  | @again setup w _ ih =>
    rw [(Frontend.init_host ⟨t, setup⟩ w).1]
    exact ih.register
  | configured values _ ih => exact Session.applyPreferences_keeps (settled_kept before) values ih
  | line setup text _ ih => exact Frontend.execute_keeps (settled_kept before) ⟨t, setup⟩ text ih
  | @command text w _ ih =>
    have kept := Session.command_keeps (settled_kept before) t text ih
    -- What the command does is settled, and must not be evaluated again.
    generalize w.host.command t text = ended at kept ⊢
    exact kept
  | call c _ locking ih => exact ih.after locking
  | @running setup args w _ _ _ reached ih =>
    have linked : before.Settled (w.withLinkage .linked).host.preferences := ih
    exact running_keeps (settled_kept before) linked reached
  | elsewhere _ same ih =>
    rw [same]
    exact ih

/-- The commands on the preferences of an initialised session. The session has the keys of the
decompiler and those that it had before. Such a key reads back what was written, unless it is a
switch and refuses it; a key that is not there is neither read nor created; and letters that end
with a dot list the keys that start with them. None of these commands is passed on to radare2. -/
theorem preference_commands_read_back {t : Transport τ} {w : World (Session τ)}
    (initialised : Initialised t before w) :
    (∀ pref ∈ Preference.all, ∀ value, ReadsBack t w.host pref.key value) ∧
      (∀ key, NamesKey key → key ∉ Preference.all.map Preference.key → before.entry? key = none →
        RefusesUnknown t w.host key) ∧
      (∀ key, NamesKey key → before.entry? key ≠ none → ∀ value, ReadsBack t w.host key value) ∧
      (∀ lead, startsWith lead Preference.keyLead = true → '=' ∉ lead.toList →
        lead.toList.getLast? = some '.' → ListsKeys t w.host lead) ∧
      ∀ text, startsWith text Preference.keyLead = true → forwarded ["e " ++ text] = [] := by
  have settled : before.Settled w.host.preferences := initialised.settled
  refine ⟨fun pref mem value => ?_, fun key names other absent => ?_,
    fun key names present value => ?_, fun lead named noEquals dot => ?_, fun text named => ?_⟩
  · obtain ⟨entry, held⟩ := Option.ne_none_iff_exists'.1 (settled.held mem)
    exact Session.readsBack t (namesKey_of_mem mem) held value
  · exact Session.refusesUnknown t names settled.locked ((settled.absent_iff key).2 ⟨other, absent⟩)
  · have still : w.host.preferences.entry? key ≠ none := fun absent =>
      present ((settled.absent_iff key).1 absent).2
    obtain ⟨entry, held⟩ := Option.ne_none_iff_exists'.1 still
    exact Session.readsBack t names held value
  · exact Session.listsKeys t settled.ordered named noEquals dot
  · simp [forwarded, preferenceExpression?_named named]

/-- A session is given a switch before the plugin is registered. Then a theme with an equals sign
and a line break inside is read back without the white space around it, the switch is a key like
those of the decompiler, a key that is not there is refused, and the letters of all keys list them.
-/
theorem preference_commands_read_back_spaced :
    let t := constantTransport ""
    let new : World (Session Unit) := { host := { transport := () } }
    let given := { new with host := (new.host.command t "e r2dec.new=true").2.2 }
    let w := (Frontend.init ⟨t, meddlingSetup⟩ given).2
    let s := (w.host.command t "e r2dec.theme= a=b\n c ").2.2
    Initialised t given.host.preferences w ∧ ReadsBack t w.host "r2dec.theme" " a=b\n c " ∧
      (s.command t "e r2dec.theme").1 = "a=b\n c\n" ∧
      NamesKey "r2dec.new" ∧ given.host.preferences.entry? "r2dec.new" ≠ none ∧
      ReadsBack t w.host "r2dec.new" "maybe" ∧
      NamesKey "r2dec.nope" ∧ RefusesUnknown t w.host "r2dec.nope" ∧
      ListsKeys t w.host "r2dec." := by
  intro t new given w s
  have ordered : given.host.preferences.InKeyOrder := by
    unfold Preferences.InKeyOrder
    decide +kernel
  have initialised : Initialised t given.host.preferences w := .start meddlingSetup rfl ordered
  have names : NamesKey "r2dec.nope" :=
    ⟨by decide +kernel, by decide +kernel, by decide +kernel, by decide +kernel⟩
  have namesNew : NamesKey "r2dec.new" :=
    ⟨by decide +kernel, by decide +kernel, by decide +kernel, by decide +kernel⟩
  have held : given.host.preferences.entry? "r2dec.new" ≠ none := by decide +kernel
  have read : (s.command t "e r2dec.theme").1 = "a=b\n c\n" := by decide +kernel
  obtain ⟨registered, others, further, lists, -⟩ := preference_commands_read_back initialised
  exact ⟨initialised, registered Preference.theme (by decide) " a=b\n c ", read, namesNew, held,
    further "r2dec.new" namesNew held "maybe", names,
    others "r2dec.nope" names (by decide) (by decide +kernel),
    lists "r2dec." (by decide +kernel) (by decide +kernel) (by decide +kernel)⟩

end DecompilerBridge.Shell
