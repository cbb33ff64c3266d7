import DecompilerBridge.Proofs.Json.ReadBack
import DecompilerBridge.Proofs.Run.States
import DecompilerBridge.Proofs.Script.Echo
import DecompilerBridge.Proofs.Shell.SessionPreferences
import DecompilerBridge.Proofs.Text.Blank
import DecompilerBridge.Proofs.Text.Words

/-!
# Arguments on their way to the scripts

What is typed after the letters of the plugin reaches the entry function of the scripts word by
word. A line is trimmed, loses its letters (`routed_lead`) and is routed by the character that comes
next (`scriptArgs_space`, `scriptArgs_letter`); the argument text that this gives is split into
words, written as JSON into the entry script and evaluated there. A package whose entry function
prints its argument as JSON shows what has arrived (`run_echoes`): one line, which is the array of
the words.

Between two lines a session is at its prompt (`AtPrompt`). Every line takes it back there
(`execute_atPrompt`), so what is said of one line holds of each line of a session.
-/

set_option autoImplicit false

namespace DecompilerBridge.Shell

open Script Text

variable {τ : Type}

/-! ## The session as a host -/

/-- A session that notes records while it serves a request is done afterwards. -/
theorem perform_noteEach {α : Type} (s : Setup) (records : List LogRecord) (a : α) (x : Session τ)
    (w : World (Session τ)) :
    Host.perform s (noteEach records (.done (.ok a, x))) w =
      (.finished a, { w.noteAll records with host := x, borrowed := false }) := by
  have driven : ∀ v : World (Session τ), Interaction.drive (Host.reenter s)
      (noteEach records (.done ((.ok a : Except Panic α), x))) v =
        (.ok (.ok a, x), v.noteAll records) := by
    induction records with
    | nil =>
      intro v
      simp [noteEach, World.noteAll]
    | cons r rest ih =>
      intro v
      refine (ih (v.note r)).trans ?_
      simp [World.noteAll, World.note]
  rw [Host.perform, driven]
  rfl

/-- Scripts print on the session. -/
theorem Frontend.channel_print (f : Frontend τ) (text : String) (w : World (Session τ)) :
    f.channel.print text w = (.finished (),
      { w.noteAll (w.host.print text).1 with
        host := (w.host.print text).2, borrowed := false }) := by
  simp only [channel, Host.channel, sessionHost_print]
  exact perform_noteEach ..

/-- Scripts run commands on the session. -/
theorem Frontend.channel_command (f : Frontend τ) (text : String) (w : World (Session τ)) :
    f.channel.command text w = (.finished (w.host.command f.transport text).1,
      { w.noteAll (w.host.command f.transport text).2.1 with
        host := (w.host.command f.transport text).2.2, borrowed := false }) := by
  simp only [channel, Host.channel, sessionHost_command]
  exact perform_noteEach ..

/-! ## A run -/

/-- A text that a script prints is printed on the session, which is free afterwards. -/
theorem Frontend.answer_print (f : Frontend τ) {w : World (Session τ)}
    (linked : w.scripts.linkage = .linked) (free : w.borrowed = false) (text : String) :
    ∃ v, World.answer (some f.channel) (.print text) w = (.ok (.granted ()), v) ∧
      v.host = (w.host.print text).2 ∧ v.borrowed = false := by
  have used := f.channel_print text w
  refine ⟨(f.channel.print text w).2, ?_, ?_⟩
  · show World.access (some f.channel) (fun p => p.print text) w = _
    rw [World.access_eq, linked, free]
    simp only [used]
    rfl
  · rw [used]
    exact ⟨rfl, rfl⟩

/-- A frontend with a package that echoes: its entry function prints its argument as JSON. -/
def Frontend.Echoes (f : Frontend τ) : Prop :=
  ∃ (i : Interpreter) (resolver : Resolver) (policy : FatalPolicy) (clock : Nat),
    f.setup = i.package resolver policy clock ∧ i.Echoes resolver

variable {f : Frontend τ} {w : World (Session τ)}

/-- The work of an engine of such a package prints the array of the words, once, and succeeds. -/
theorem session_echoes {i : Interpreter} {resolver : Resolver} (echo : i.Echoes resolver)
    (f : Frontend τ) (linked : w.scripts.linkage = .linked) (free : w.borrowed = false)
    (args : String) (readings : Readings) :
    ∃ last v, ((Invocation.session (i.machine resolver) args).run
        ⟨i.newEngine {} readings, none⟩).drive (World.answer (some f.channel)) w =
          (.ok (.ok (.ok (.ok ())), last), v) ∧
      v.host = (w.host.print (String.ofList (Entry.literal args) ++ "\n")).2 ∧
      v.borrowed = false := by
  have opens := Interpreter.opening_unseen (echo.driver readings)
  obtain ⟨_, live, there, ⟨rfl, -, outermost, echoes⟩, same, goesOn, -⟩ :=
    opens.drive_bind (Invocation.afterOpening (i.machine resolver) args) (some f.channel) w
  obtain ⟨after, next, asks, given⟩ := Invocation.entry_echoes echo outermost echoes args
  obtain ⟨u, answered, host, freeThen⟩ := f.answer_print (same.linkage.trans linked)
    (same.borrowed.trans free) (String.ofList (Entry.literal args) ++ "\n")
  have entry : ((Invocation.entry (i.machine resolver) args).run live).drive
      (World.answer (some f.channel)) there = (.ok (.ok (), ⟨after, live.parked⟩), u) := by
    refine (congrArg (Interaction.drive (World.answer (some f.channel)) · there) asks).trans ?_
    simp only [Interaction.drive, answered, given]
  have called := Bridge.drive_map (Except.ok (ε := String)) (Invocation.callEntry_of_entry entry)
  refine ⟨⟨after, live.parked⟩, u.enter .entryInvoked, ?_, ?_, freeThen⟩
  · rw [Invocation.session_eq]
    exact goesOn.trans called
  · rw [← same.host]
    exact host

/-- Between two lines no run is in progress, and the session is at hand. -/
structure AtPrompt (w : World (Session τ)) : Prop where
  idle : w.scripts.isLinked = false
  free : w.borrowed = false

/-- A command that is passed on to radare2 leaves the prompt as it is. -/
theorem AtPrompt.passOn (prompt : AtPrompt w) (line : String) : AtPrompt (f.passOn line w) := by
  simp only [Frontend.passOn]
  generalize w.host.command f.transport line = served
  exact ⟨prompt.idle, prompt.free⟩

/-- A run of such a package prints the array of the words, creates one engine, and succeeds. -/
theorem run_echoes (echoes : f.Echoes) (prompt : AtPrompt w) (args : String) :
    ∃ after, ScriptHost.run f.setup (some f.channel) args w = (.finished (.ok ()), after) ∧
      after.host = (w.host.print (String.ofList (Entry.literal args) ++ "\n")).2 ∧
      after.scripts.invocations = w.scripts.invocations + 1 ∧ AtPrompt after := by
  obtain ⟨i, resolver, policy, clock, package, echo⟩ := echoes
  obtain ⟨transport, setup⟩ := f
  obtain rfl : setup = i.package resolver policy clock := package
  let f : Frontend τ := ⟨transport, i.package resolver policy clock⟩
  have opens := i.package_opens resolver policy clock (w.readings 0)
  obtain ⟨last, v, worked, host, free⟩ := session_echoes echo f (w := ScriptHost.started w) rfl
    prompt.free args (w.readings 0)
  have status := ScriptHost.run_status (s := f.setup) (h := sessionHost transport) args prompt.idle
  have engines := (ScriptHost.requests_of_engine (h := sessionHost transport)
    (Invocation.begun_of_opens opens args)).2
  have driven : (Invocation.reported f.setup args).drive (World.answer (some f.channel))
      (w.withLinkage .linked) = (.ok (.finished (.ok ())), v) :=
    ScriptHost.drive_reported_of_session (v := w.withLinkage .linked) opens worked
  have ended : ScriptHost.run f.setup (some f.channel) args w =
      (.finished (.ok ()), ScriptHost.tearDown v) := by
    rw [ScriptHost.run_of_unlinked _ _ _ prompt.idle, ScriptHost.drive, driven]
    rfl
  refine ⟨ScriptHost.tearDown v, ended, host, ?_, rfl, free⟩
  have counted := status.2
  rw [engines] at counted
  exact (congrArg (·.2.scripts.invocations) ended).symm.trans counted

/-! ## Lines -/

/-- A line with the letters of the plugin is its command. -/
theorem execute_routed (f : Frontend τ) {line rest : String}
    (routed : stripLead Command.lead (trim line) = some rest) (w : World (Session τ)) :
    f.execute line w = Plugin.answerWith .proceed (Plugin.dispatch f.setup (some f.channel)
      (.ofRest rest) (w.note (Command.routeRecord rest))) := by
  -- a line with the letters is no command of the shell itself
  have letters : (trim line).toList = 'p' :: 'd' :: 'd' :: rest.toList := by
    rw [stripLead_eq_some_iff.1 routed, String.toList_append]
    rfl
  have other : ∀ text : String, text.toList.head? ≠ some 'p' → trim line ≠ text := by
    rintro text unlike rfl
    rw [letters] at unlike
    exact unlike rfl
  have notListing : stripLead ".complete" (trim line) = none := by
    simp [stripLead, letters]
  have notProbe : Plugin.isProbe (trim line) = false := by
    simp [Plugin.isProbe, startsWith, letters]
  have own : ¬(trim line = "q" ∨ trim line = "quit") :=
    not_or.2 ⟨other _ (by simp), other _ (by simp)⟩
  unfold Frontend.execute
  simp only [if_neg (other "" (by simp)), if_neg own, notListing]
  simp only [Plugin.call, notProbe, routed, Bool.false_eq_true, if_false]
  generalize Plugin.dispatch _ _ _ _ = ended
  rcases ended with ⟨_ | _ | _, after⟩ <;> rfl

/-- A line prints an array of texts on the session, as one line and nothing else, and creates one
engine. Whoever reads the line back gets the texts. -/
structure PrintsArray (f : Frontend τ) (line : String) (w : World (Session τ))
    (texts : List (List Char)) : Prop where
  proceeds : (f.execute line w).1 = .finished .proceed
  session : (f.execute line w).2.host =
    (w.host.print (String.ofList (jsonStrings texts) ++ "\n")).2
  written : w.host.output.fault = none → (f.execute line w).2.host.output.written =
    w.host.output.written ++ (String.ofList (jsonStrings texts) ++ "\n")
  oneLine : '\n' ∉ jsonStrings texts
  readBack : Json.parse (String.ofList (jsonStrings texts)) =
    .ok (.array (texts.map fun cs => .string (String.ofList cs)))
  engines : (f.execute line w).2.scripts.invocations = w.scripts.invocations + 1

/-- A line runs no script: it creates no engine. -/
structure RunsNoScript (f : Frontend τ) (line : String) (w : World (Session τ)) : Prop where
  proceeds : (f.execute line w).1 = .finished .proceed
  engines : (f.execute line w).2.scripts.invocations = w.scripts.invocations

/-- A text that is printed on an output without a fault is written after what was there. -/
theorem Session.written_print {session : Session τ} (sound : session.output.fault = none)
    (text : String) : (session.print text).2.output.written = session.output.written ++ text := by
  simp [print, Output.print, sound]

section

variable {line rest : String} (routed : stripLead Command.lead (trim line) = some rest)

include routed

/-- A command that hands an argument text to the scripts prints the array of its words. -/
theorem printsArray_of_scriptArgs (echoes : f.Echoes) (prompt : AtPrompt w)
    {args : String} (runs : (Command.ofRest rest).scriptArgs = some args) :
    PrintsArray f line w (wordLists args.toList) ∧ AtPrompt (f.execute line w).2 := by
  have dispatched : ∀ v, Plugin.dispatch f.setup (some f.channel) (.ofRest rest) v =
      Plugin.decompile f.setup (some f.channel) args v := by
    intro v
    cases command : Command.ofRest rest <;> rw [command] at runs <;> cases runs <;> rfl
  have routing : AtPrompt (w.note (Command.routeRecord rest)) := ⟨prompt.idle, prompt.free⟩
  obtain ⟨after, ended, host, engines, again⟩ := run_echoes echoes routing args
  have executed : f.execute line w = (.finished .proceed, after) := by
    rw [execute_routed f routed, dispatched, Plugin.decompile, ended]
    rfl
  rw [executed]
  exact ⟨
    { proceeds := by rw [executed]
      session := by rw [executed]; exact host
      written := by
        intro sound
        rw [executed, host]
        exact Session.written_print sound _
      oneLine := newline_notMem_jsonStrings _
      readBack := Json.parse_jsonStrings _
      engines := by rw [executed]; exact engines }, again⟩

/-- A command that hands nothing to the scripts runs none. -/
theorem runsNoScript_of_scriptArgs (prompt : AtPrompt w)
    (runs : (Command.ofRest rest).scriptArgs = none) :
    RunsNoScript f line w ∧ AtPrompt (f.execute line w).2 := by
  have atHand : Plugin.freeChannel (some f.channel) (w.note (Command.routeRecord rest)) =
      some f.channel := by
    show (if w.borrowed then none else some f.channel) = _
    rw [prompt.free]
    rfl
  have printed : ∀ text v, ∃ after, f.channel.print text v = (.finished (), after) ∧
      after.scripts = v.scripts ∧ after.borrowed = false :=
    fun text v => ⟨_, f.channel_print text v, rfl, rfl⟩
  obtain ⟨after, dispatched, scripts, free⟩ : ∃ after, Plugin.dispatch f.setup (some f.channel)
      (.ofRest rest) (w.note (Command.routeRecord rest)) = (.finished (), after) ∧
        after.scripts = w.scripts ∧ after.borrowed = false := by
    cases command : Command.ofRest rest <;> rw [command] at runs <;> cases runs
    case upgrade =>
      obtain ⟨output, between, ran, unchanged⟩ : ∃ output between,
          f.channel.command Command.upgradeLine (w.note (Command.routeRecord rest)) =
            (.finished output, between) ∧ between.scripts = w.scripts :=
        ⟨_, _, f.channel_command Command.upgradeLine _, rfl⟩
      obtain ⟨after, shown, kept, free⟩ := printed output between
      refine ⟨after, ?_, kept.trans unchanged, free⟩
      rw [Plugin.dispatch, Plugin.upgrade, atHand]
      simp only [ran, shown]
    case help =>
      obtain ⟨after, shown, kept, free⟩ :=
        printed Command.usage (w.note (Command.routeRecord rest))
      refine ⟨after, ?_, kept, free⟩
      rw [Plugin.dispatch, Plugin.help, atHand]
      simp only [shown]
  have executed : f.execute line w = (.finished .proceed, after) := by
    rw [execute_routed f routed, dispatched]
    rfl
  rw [executed]
  exact ⟨⟨by rw [executed], by rw [executed, scripts]⟩, by rw [scripts]; exact prompt.idle, free⟩

end

/-- After every line the session is at its prompt again. -/
theorem execute_atPrompt (echoes : f.Echoes) (prompt : AtPrompt w) (line : String) :
    AtPrompt (f.execute line w).2 := by
  cases routed : stripLead Command.lead (trim line) with
  | some rest =>
    cases runs : (Command.ofRest rest).scriptArgs with
    | some args => exact (printsArray_of_scriptArgs routed echoes prompt runs).2
    | none => exact (runsNoScript_of_scriptArgs routed prompt runs).2
  | none =>
    obtain ⟨after, called, again⟩ : ∃ after,
        Plugin.call f.setup (some f.channel) (trim line) w = (.finished false, after) ∧
          AtPrompt after := by
      unfold Plugin.call
      rw [routed]
      split
      · refine ⟨(f.channel.print (Plugin.name ++ "\n") w).2, ?_, ?_⟩
        · rw [World.printLine_eq, prompt.free]
          simp only [f.channel_print]
          rfl
        · rw [f.channel_print]
          exact ⟨prompt.idle, rfl⟩
      · exact ⟨w, rfl, prompt⟩
    unfold Frontend.execute
    dsimp only
    rw [called]
    split
    · exact prompt
    · split
      · exact prompt
      · cases stripLead ".complete" (trim line) with
        | some listed => exact ⟨prompt.idle, prompt.free⟩
        | none => exact again.passOn _

/-- A line that starts with the letters of the plugin is routed by what follows them, without the
white space at the end. -/
theorem routed_lead (rest : String) : stripLead Command.lead (trim (Command.lead ++ rest)) =
    some (String.ofList (dropEndWhile isBlank rest.toList)) :=
  stripLead_eq_some_iff.2 (trim_append_solid (c := 'p') (d := 'd') rfl rfl ['d'] rest)

/-- The argument text after a space has the words of what follows the space. -/
theorem scriptArgs_space (t : String) :
    ∃ args, (Command.ofRest (String.ofList (dropEndWhile isBlank (' ' :: t.toList)))).scriptArgs =
      some args ∧ wordLists args.toList = wordLists t.toList := by
  rcases dropEndWhile_cons (show isBlank ' ' = true from rfl) t.toList with ⟨gone, all⟩ | kept
  · refine ⟨"", by rw [all]; rfl, ?_⟩
    rw [← wordLists_dropEndWhile t.toList, gone]
    rfl
  · refine ⟨String.ofList (dropEndWhile isBlank t.toList), ?_, ?_⟩
    · rw [kept, Command.ofRest, String.toList_ofList]
      rfl
    · rw [String.toList_ofList, wordLists_dropEndWhile]

/-- A character after the letters that is no white space is what the command is picked by. -/
theorem routed_letter (c : Char) (solid : isBlank c = false) (t : String) :
    stripLead Command.lead (trim (Command.lead ++ String.singleton c ++ t)) =
      some (String.ofList (c :: dropEndWhile isBlank t.toList)) := by
  rw [String.append_assoc, routed_lead, String.toList_append, String.toList_singleton]
  exact congrArg (some <| String.ofList ·) (dropEndWhile_append_cons solid [] t.toList)

/-- The argument text that belongs to a letter after those of the plugin. -/
def letterArgs? (c : Char) : Option String :=
  if c = 'a' then some "--assembly" else if c = 'b' then some "--blocks"
  else if c = 'i' then some "--issue" else none

/-- A letter picks its argument text, whatever follows it. -/
theorem scriptArgs_letter {c : Char} (solid : isBlank c = false) (cs : List Char) :
    (Command.ofRest (String.ofList (c :: cs))).scriptArgs = letterArgs? c := by
  unfold Command.ofRest
  rw [String.toList_ofList]
  split
  · next same => cases same
  · next same =>
    cases same
    cases solid
  · next same => cases same; rfl
  · next same => cases same; rfl
  · next same => cases same; rfl
  · next same => cases same; rfl
  · next notI notA notB same =>
    cases same
    rw [letterArgs?, if_neg notA, if_neg notB, if_neg notI]
    rfl

/-- A package whose driver only defines such an entry function. -/
def echoingResolver : Resolver where
  base := .fixed "/"
  files := { members := [("require.js", .file ("[[\"def\",\"r2dec_main\"," ++
    "[[\"log\",[\"json\",[\"args\"]]]]]]").toUTF8.toList)] }

/-- That package, as the JSON interpreter runs it. -/
def echoingSetup : Setup := jsonInterpreter.package echoingResolver .contain 1

end DecompilerBridge.Shell
