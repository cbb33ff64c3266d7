import DecompilerBridge.Proofs.Preferences.Registered
import DecompilerBridge.Proofs.Run.Frame
import DecompilerBridge.Script.Interpreter
import DecompilerBridge.Shell.Program

/-!
# The preferences of a shell session

A session starts with the registration of the plugin and the configured preferences, and then
executes lines. Lines reach the preference store as commands of the session: typed ones, and those
that scripts run in the middle of a run of theirs. A property of stores that no write takes away
(`Preferences.KeptByWrites`) is kept by a single command and by a single print, hence by every use
of the session as a host (`Frontend.channel_keeps`), hence at every point of every run of the
scripts and by every line (`running_keeps`, `Frontend.execute_keeps`). `Preferences.Registered` is
such a property.
-/

set_option autoImplicit false

namespace DecompilerBridge

/-- No write takes a property away from a store. -/
def Preferences.KeptByWrites (I : Preferences → Prop) : Prop :=
  ∀ {p changed : Preferences} {key value : String}, I p → p.set key value = .ok changed → I changed

/-- Writes keep the keys of the decompiler registered. -/
theorem Preferences.registered_kept : KeptByWrites Registered := fun registered written =>
  registered.set written

end DecompilerBridge

namespace DecompilerBridge.Shell

open Script

variable {τ : Type} {I : Preferences → Prop}

/-! ## Commands and prints -/

/-- A preference expression writes once at most. -/
theorem preferenceReply_keeps (kept : Preferences.KeptByWrites I) {p : Preferences} (hp : I p)
    (expression : String) : I (preferenceReply p expression).2 := by
  unfold preferenceReply
  cases Text.splitFirst '=' expression with
  | some pair =>
    obtain ⟨key, value⟩ := pair
    cases written : p.set (Text.trim key) (Text.trim value) with
    | ok changed =>
      simp only [written]
      exact kept hp written
    | error e =>
      simp only [written]
      exact hp
  | none =>
    dsimp only
    split
    · exact hp
    · cases p.get? expression with
      | some value => exact hp
      | none => exact hp

namespace Session

/-- The store of a session holds the preferences of the decompiler. -/
def Registered (s : Session τ) : Prop := s.preferences.Registered

/-- A command of the session writes to the store at most. -/
theorem command_keeps (kept : Preferences.KeptByWrites I) (t : Transport τ) (text : String)
    {s : Session τ} (hs : I s.preferences) : I (s.command t text).2.2.preferences := by
  unfold command
  cases preferenceExpression? text with
  | some expression => exact preferenceReply_keeps kept hs expression
  | none =>
    dsimp only
    rcases t.send text s.transport with ⟨_ | _, after⟩
    · exact hs
    · exact hs

/-- A print leaves the preferences of a session alone. -/
theorem print_preferences (text : String) (s : Session τ) :
    (s.print text).2.preferences = s.preferences := by
  unfold print
  rcases s.output.print text with ⟨_ | _, after⟩ <;> rfl

/-- So do configured preferences. -/
theorem applyPreferences_keeps (kept : Preferences.KeptByWrites I) (values : List (String × String))
    {s : Session τ} (hs : I s.preferences) : I (s.applyPreferences values).2.preferences := by
  induction values generalizing s with
  | nil => exact hs
  | cons pair rest ih =>
    obtain ⟨key, value⟩ := pair
    cases written : s.preferences.set key value with
    | ok changed =>
      simp only [applyPreferences, written]
      exact ih (kept hs written)
    | error e =>
      simp only [applyPreferences, written]
      exact ih hs

end Session

/-! ## The session as a host -/

/-- Work that notes records and then ends with a state ends with that state. -/
theorem noteEach_ends {η α : Type} {I : η → Prop} (records : List LogRecord)
    (result : Except Panic α) {x : η} (hx : I x) :
    (noteEach records (.done (result, x))).Ends fun ended => I ended.2 := by
  induction records with
  | nil => exact hx
  | cons r rest ih => exact fun _ => ih

/-- A session serves a command by noting what there is to note. -/
theorem sessionHost_command (t : Transport τ) (text : String) (state : EngineState)
    (s : Session τ) :
    (sessionHost t).command text state s =
      noteEach (s.command t text).2.1
        (.done (.ok (s.command t text).1, (s.command t text).2.2)) := by
  simp only [sessionHost]

/-- A session prints a text by noting what there is to note. -/
theorem sessionHost_print (t : Transport τ) (text : String) (state : EngineState) (s : Session τ) :
    (sessionHost t).print text state s =
      noteEach (s.print text).1 (.done (.ok (), (s.print text).2)) := by
  simp only [sessionHost]

namespace Frontend

/-- Every use of the session by the scripts keeps what no write takes away. -/
theorem channel_keeps (kept : Preferences.KeptByWrites I) (f : Frontend τ) :
    f.channel.Keeps fun session _ => I session.preferences where
  command text w hw := by
    have served := Session.command_keeps kept f.transport text hw
    simp only [channel, Host.channel, sessionHost_command]
    -- What the command does is settled, and must not be evaluated again.
    generalize w.host.command f.transport text = ended at served ⊢
    refine Host.perform_keeps (I := fun session : Session τ => I session.preferences) ?_ hw
    exact noteEach_ends (I := fun session : Session τ => I session.preferences) ended.2.1 _ served
  print text w hw := by
    have printed : I (w.host.print text).2.preferences := by
      rw [Session.print_preferences]
      exact hw
    simp only [channel, Host.channel, sessionHost_print]
    generalize w.host.print text = ended at printed ⊢
    refine Host.perform_keeps (I := fun session : Session τ => I session.preferences) ?_ hw
    exact noteEach_ends (I := fun session : Session τ => I session.preferences) ended.1 _ printed

/-- The same of a session that is at hand. -/
theorem some_channel_keeps (kept : Preferences.KeptByWrites I) (f : Frontend τ) :
    ∀ p ∈ some f.channel, p.Keeps fun session _ => I session.preferences := by
  intro p hp
  exact Option.some.inj hp ▸ f.channel_keeps kept

/-- So does a command that is passed on. -/
theorem passOn_keeps (kept : Preferences.KeptByWrites I) (f : Frontend τ) (line : String)
    {w : World (Session τ)} (hw : I w.host.preferences) : I (f.passOn line w).host.preferences := by
  simp only [passOn, printText, Session.print_preferences]
  exact Session.command_keeps kept f.transport line hw

/-- A line keeps what no write takes away, whatever the scripts do that it runs. -/
theorem execute_keeps (kept : Preferences.KeptByWrites I) (f : Frontend τ) (line : String)
    {w : World (Session τ)} (hw : I w.host.preferences) :
    I (f.execute line w).2.host.preferences := by
  unfold execute
  dsimp only
  split
  · exact hw
  · split
    · exact hw
    · cases Text.stripLead ".complete" (Text.trim line) with
      | some rest =>
        simp only [printText, Session.print_preferences]
        exact hw
      | none =>
        have called :=
          Plugin.call_keeps (f.some_channel_keeps kept) f.setup (Text.trim line) (w := w) hw
        dsimp only
        generalize Plugin.call f.setup (some f.channel) (Text.trim line) w = ended at called ⊢
        rcases ended with ⟨(_ | _) | _ | _, after⟩
        · exact f.passOn_keeps kept _ called
        · exact called
        · exact called
        · exact called

/-- The words of the plugin go to the completions of a session and nowhere else. -/
theorem addCompletions_host (t : Transport τ) (entries : List CompletionEntry) (s : Session τ) :
    entries.foldl (fun session e => (sessionHost t).addCompletion e session) s =
      { s with completions := entries.foldl Completions.add s.completions } := by
  induction entries generalizing s with
  | nil => rfl
  | cons e rest ih =>
    rw [List.foldl_cons, ih]
    rfl

/-- The registration of the plugin registers its preferences, and adds its words unless a preference
is refused. -/
theorem init_host (f : Frontend τ) (w : World (Session τ)) :
    (f.init w).2.host.preferences = w.host.preferences.register.1 ∧
      (f.init w).2.host.completions =
        match w.host.preferences.register.2 with
        | .ok () => Plugin.completionEntries.foldl Completions.add w.host.completions
        | .error _ => w.host.completions := by
  simp only [Frontend.init, Plugin.init]
  -- What registration does to the store, and which words there are, must not be evaluated here.
  generalize Plugin.completionEntries = entries
  have store : (sessionHost f.transport).preferences w.host = w.host.preferences := rfl
  rw [store]
  generalize w.host.preferences.register = registered
  obtain ⟨changed, _ | _⟩ := registered
  · exact ⟨rfl, rfl⟩
  · simp only [addCompletions_host]
    exact ⟨rfl, rfl⟩

/-- The registration of the plugin leaves a new session with a registered store. -/
theorem init_registered (f : Frontend τ) {w : World (Session τ)} (new : w.host.preferences = {}) :
    (f.init w).2.host.Registered := by
  rw [Session.Registered, (f.init_host w).1, new]
  exact Preferences.register_registered

end Frontend

/-! ## Sessions -/

/-- The worlds that a shell session gets to: after the registration of the plugin with a new session
and the configured preferences, and after every line. Every line may meet its own files and limits.
-/
inductive SessionReached (t : Transport τ) (values : Table String) : World (Session τ) → Prop where
  | start (setup : Setup) {w : World (Session τ)} : w.host.preferences = {} →
      SessionReached t values
        (Frontend.applyPreferences values (Frontend.init ⟨t, setup⟩ w).2)
  | line (setup : Setup) (text : String) {w : World (Session τ)} : SessionReached t values w →
      SessionReached t values (Frontend.execute ⟨t, setup⟩ text w).2

/-- A session stays one through all the lines that a shell executes. -/
theorem SessionReached.executeAll {t : Transport τ} {values : Table String} (setup : Setup)
    (lines : List (Option String)) {w : World (Session τ)} (reached : SessionReached t values w) :
    SessionReached t values (Frontend.executeAll ⟨t, setup⟩ lines w).2 := by
  induction lines generalizing w with
  | nil => exact reached
  | cons first rest ih =>
    cases first with
    | none => exact reached
    | some text =>
      have after := SessionReached.line setup text reached
      simp only [Frontend.executeAll]
      rcases ended : Frontend.execute ⟨t, setup⟩ text w with ⟨(_ | _) | _ | _, v⟩ <;>
        rw [ended] at after
      · exact ih after
      · exact after
      · exact after
      · exact after

/-- In every world that a session gets to, its store is registered. -/
theorem SessionReached.registered {t : Transport τ} {values : Table String}
    {w : World (Session τ)} (reached : SessionReached t values w) : w.host.Registered := by
  induction reached with
  | start setup new =>
    exact Session.applyPreferences_keeps Preferences.registered_kept values
      (Frontend.init_registered ⟨t, setup⟩ new)
  | line setup text _ ih =>
    exact Frontend.execute_keeps Preferences.registered_kept ⟨t, setup⟩ text ih

/-- A run of the scripts on a session keeps what no write takes away, at every point of it. -/
theorem running_keeps (kept : Preferences.KeptByWrites I) {f : Frontend τ} {args : String}
    {w v : World (Session τ)} {rest : Invocation.Progress (Outcome (Except ScriptError Unit))}
    (hw : I w.host.preferences)
    (reached : Interaction.Reaches (World.answer (some f.channel))
      (Invocation.reported f.setup args) w rest v) : I v.host.preferences := by
  refine reached.invariant (I := fun u : World (Session τ) => I u.host.preferences) ?_ hw
  intro q u r after hu answered
  have still := World.answer_keeps (f.some_channel_keeps kept) q hu
  rwa [answered] at still

/-- At every point of a run of the scripts on a session, its store is registered. -/
theorem running_registered {f : Frontend τ} {args : String} {w v : World (Session τ)}
    {rest : Invocation.Progress (Outcome (Except ScriptError Unit))}
    (registered : w.host.Registered)
    (reached : Interaction.Reaches (World.answer (some f.channel))
      (Invocation.reported f.setup args) w rest v) : v.host.Registered :=
  running_keeps Preferences.registered_kept registered reached

/-- A session holds the preferences of the decompiler whatever was configured, whatever lines were
executed, and whatever the scripts and radare2 did meanwhile; and it goes on holding them at every
point of a further run of the scripts. -/
theorem session_holds_decompiler_keys {t : Transport τ} {values : Table String}
    {w : World (Session τ)} (reached : SessionReached t values w) :
    w.host.preferences.HoldsDecompilerKeys ∧
      ∀ (setup : Setup) (args : String) rest v,
        Interaction.Reaches (World.answer (some (Frontend.channel ⟨t, setup⟩)))
            (Invocation.reported setup args) (w.withLinkage .linked) rest v →
          v.host.preferences.HoldsDecompilerKeys := by
  refine ⟨reached.registered.holdsDecompilerKeys, ?_⟩
  intro setup args rest v running
  have registered : (w.withLinkage .linked).host.Registered := reached.registered
  exact (running_registered registered running).holdsDecompilerKeys

/-- radare2 answers every command with the same text. -/
def constantTransport (answer : String) : Transport Unit where
  send _ _ := (.ok answer, ())

/-- A package whose entry function tries to spoil a switch. -/
def meddlingSetup : Setup where
  machine := Script.jsonInterpreter.machine
    { base := .fixed "/"
      files := { members := [("require.js", .file ("[[\"def\",\"r2dec_main\"," ++
        "[[\"do\",[\"r2cmd\",\"e r2dec.asm=maybe\"]]]]]").toUTF8.toList)] } }

/-- A session that is configured with a switch, a value that is no position and an unknown key, and
then runs such a package, still holds the preferences of the decompiler, with the switch as it was.
-/
theorem session_holds_decompiler_keys_meddled :
    let values : Table String :=
      [("r2dec.asm", "1"), ("r2dec.casts", "yes"), ("r2dec.color", "true")]
    let f : Frontend Unit := ⟨constantTransport "", meddlingSetup⟩
    let w := (f.execute "pdd"
      (Frontend.applyPreferences values (f.init { host := { transport := () } }).2)).2
    SessionReached f.transport values w ∧ w.host.preferences.HoldsDecompilerKeys ∧
      w.host.preferences.get? "r2dec.asm" = some "true" ∧ w.scripts.invocations = 1 := by
  intro values f w
  have reached : SessionReached f.transport values w :=
    .line meddlingSetup "pdd" (.start meddlingSetup rfl)
  have evaluated : w.host.preferences.get? "r2dec.asm" = some "true" ∧
      w.scripts.invocations = 1 := by
    decide +kernel
  exact ⟨reached, (session_holds_decompiler_keys reached).1, evaluated⟩

end DecompilerBridge.Shell
