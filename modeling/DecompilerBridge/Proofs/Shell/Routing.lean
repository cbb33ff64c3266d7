import DecompilerBridge.Proofs.Run.HostAccess
import DecompilerBridge.Proofs.Shell.Arguments
import DecompilerBridge.Proofs.Shell.PipeStep

/-!
# Every line goes one way

A typed line is trimmed, and the trimmed line alone decides who gets it: the shell itself, which
stops, does nothing or prints a listing; the plugin, which runs the scripts; or radare2.

What radare2 has seen is told by the state of the transport (`Transport.after`). A command of the
session sends its text once, or not at all if it is about a preference (`command_transport`), and a
print sends nothing. Scripts use the session in these two ways only, so a run leaves the session as
the commands and texts that it has received leave it, one after the other (`run_session`), and
radare2 has seen the commands among them (`foldl_serve_transport`).
-/

set_option autoImplicit false

namespace DecompilerBridge

open Script Text

/-- The command that is received, if it is one. -/
def Received.command? : Received → Option String
  | .command text _ => some text
  | .print _ _ => none

namespace Plugin

variable {η : Type}

/-- The question for the decompilers has its letters and both marks. -/
theorem isProbe_iff {line : String} : isProbe line = true ↔
    startsWith line "e cmd.pdc" = true ∧ '=' ∈ line.toList ∧ '?' ∈ line.toList := by
  simp [isProbe, and_assoc]

/-- The question is no command of the plugin. -/
theorem startsWith_lead_of_isProbe {line : String} (probe : isProbe line = true) :
    startsWith line Command.lead = false := by
  obtain ⟨rest, rfl⟩ := startsWith_iff.1 (isProbe_iff.1 probe).1
  simp [startsWith, Command.lead, List.isPrefixOf]

/-- The answer to a line that has come to an end tells whether it starts with the letters of the
plugin, whoever handed it over. -/
theorem call_answer (s : Setup) (channel : Option (HostChannel η)) (line : String) (w : World η)
    {answer : Bool} (ended : (call s channel line w).1 = .finished answer) :
    answer = startsWith line Command.lead := by
  unfold call at ended
  split at ended
  · next probe =>
    rw [startsWith_lead_of_isProbe probe]
    rcases printed : World.printLine channel name w with ⟨_ | _ | _, after⟩ <;>
      rw [printed] at ended <;> cases ended
    rfl
  · cases stripped : stripLead Command.lead line with
    | none =>
      rw [stripped] at ended
      cases ended
      exact (stripLead_eq_none_iff.1 stripped).symm
    | some rest =>
      simp only [stripped] at ended
      have starts := startsWith_iff.2 ⟨rest, stripLead_eq_some_iff.1 stripped⟩
      rcases dispatched : dispatch s channel (.ofRest rest) (w.note (Command.routeRecord rest)) with
        ⟨_ | _ | _, after⟩ <;> rw [dispatched] at ended <;> cases ended
      exact starts.symm

/-- Work that ends, or goes no further, does so also as an answer. -/
theorem answerWith_cases {β : Type} (a : β) {ended : Outcome Unit × World η} {P : Prop}
    {Q : World η → Prop}
    (cases : ended.1 = .finished () ∧ Q ended.2 ∨ P ∧ ∃ halt, ended.1 = .halted halt) :
    (answerWith a ended).1 = .finished a ∧ Q (answerWith a ended).2 ∨
      P ∧ ∃ halt, (answerWith a ended).1 = .halted halt := by
  obtain ⟨outcome, after⟩ := ended
  rcases cases with ⟨rfl, kept⟩ | ⟨hp, halt, rfl⟩
  · exact .inl ⟨rfl, kept⟩
  · exact .inr ⟨hp, halt, rfl⟩

end Plugin

namespace Shell

variable {τ : Type}

/-! ## What radare2 has seen -/

/-- The state of radare2 after some commands, one after the other. -/
def Transport.after (t : Transport τ) (texts : List String) (x : τ) : τ :=
  texts.foldl (fun y text => (t.send text y).2) x

/-- The texts that are passed on to radare2: those that the session does not serve itself. -/
def forwarded (texts : List String) : List String :=
  texts.filter fun text => (preferenceExpression? text).isNone

/-- Commands follow one another. -/
theorem Transport.after_append (t : Transport τ) (first second : List String) (x : τ) :
    t.after (first ++ second) x = t.after second (t.after first x) := by
  simp [after, List.foldl_append]

namespace Session

/-- A command of the session reaches radare2 if it is passed on. -/
theorem command_transport (t : Transport τ) (text : String) (s : Session τ) :
    (s.command t text).2.2.transport = t.after (forwarded [text]) s.transport := by
  unfold command
  cases served : preferenceExpression? text with
  | some expression => simp [forwarded, served, Transport.after]
  | none =>
    have sent : forwarded [text] = [text] := by simp [forwarded, served]
    rw [sent]
    dsimp only [Transport.after, List.foldl_cons, List.foldl_nil]
    rcases t.send text s.transport with ⟨_ | _, after⟩ <;> rfl

/-- A print changes the output alone. -/
theorem print_snd (text : String) (s : Session τ) :
    (s.print text).2 = { s with output := (s.output.print text).2 } := by
  unfold print
  rcases s.output.print text with ⟨_ | _, after⟩ <;> rfl

/-- The reply to a command does not depend on what is printed. -/
theorem command_withOutput (t : Transport τ) (text : String) (s : Session τ) (output : Output) :
    ({ s with output := output } : Session τ).command t text =
      ((s.command t text).1, (s.command t text).2.1,
        { (s.command t text).2.2 with output := output }) := by
  unfold command
  cases preferenceExpression? text with
  | some expression => rfl
  | none =>
    dsimp only
    rcases t.send text s.transport with ⟨_ | _, after⟩ <;> rfl

/-- The session after it has received something. -/
def serve (t : Transport τ) (s : Session τ) : Received → Session τ
  | .command text _ => (s.command t text).2.2
  | .print text _ => (s.print text).2

/-- Of what a session receives, radare2 sees the commands that are passed on. -/
theorem foldl_serve_transport (t : Transport τ) (received : List Received) (s : Session τ) :
    (received.foldl (serve t) s).transport =
      t.after (forwarded (received.filterMap Received.command?)) s.transport := by
  induction received generalizing s with
  | nil => rfl
  | cons first rest ih =>
    rw [List.foldl_cons, ih]
    cases first with
    | command text state =>
      have split : forwarded (text :: rest.filterMap Received.command?) =
          forwarded [text] ++ forwarded (rest.filterMap Received.command?) := by
        rw [← List.singleton_append, forwarded, List.filter_append]
        rfl
      simp only [serve, List.filterMap_cons, Received.command?]
      rw [split, Transport.after_append, command_transport]
    | print text state =>
      simp only [serve, print_snd, List.filterMap_cons, Received.command?]

end Session

/-! ## What a process receives -/

section Pipes

variable {π : Type} (peer : Peer π)

/-- Of the lines of commands a process receives those up to its end, each once and in order,
whatever it answers; and all of them if it is there afterwards. -/
theorem after_recorded (texts : List String) (p : Pipe (π × List String)) :
    let after := (Transport.ofPeer peer.recorded).after texts p
    after.peer.2 = p.peer.2 ++ peer.heard (texts.map encodeCommand) p.peer.1 p.alive ∧
      (after.alive = true → p.alive = true ∧
        peer.heard (texts.map encodeCommand) p.peer.1 p.alive = texts.map encodeCommand) := by
  induction texts generalizing p with
  | nil => exact ⟨(List.append_nil _).symm, fun alive => ⟨alive, rfl⟩⟩
  | cons text rest ih =>
    obtain ⟨received, whole⟩ := ih (p.command peer.recorded text).2
    have sent : (Transport.ofPeer peer.recorded).after (text :: rest) p =
        (Transport.ofPeer peer.recorded).after rest (p.command peer.recorded text).2 := rfl
    simp only [sent, List.map_cons]
    cases alive : p.alive with
    | false =>
      rw [Pipe.command_of_ended peer.recorded text alive] at received whole ⊢
      rw [alive, Peer.heard_of_ended] at received
      rw [alive] at whole
      rw [Peer.heard_of_ended]
      exact ⟨received, fun later => absurd (whole later).1 (by simp)⟩
    | true =>
      obtain ⟨heard, going⟩ := Pipe.command_recorded peer text alive
      rw [heard, going, List.append_assoc] at received
      rw [heard, going] at whole
      rw [Peer.heard_cons_of_alive]
      exact ⟨received, fun later => ⟨rfl, congrArg _ (whole later).2⟩⟩

/-- Of some lines a process receives those up to its end, each once and in order, and nothing else:
at least the first one if it is there before, and all of them if it is there afterwards. -/
structure Hears (before after : World (Session (Pipe (π × List String)))) (lines : List String) :
    Prop where
  received : after.host.transport.peer.2 = before.host.transport.peer.2 ++
    peer.heard lines before.host.transport.peer.1 before.host.transport.alive
  first : before.host.transport.alive = true → ∀ line ∈ lines.head?,
    before.host.transport.peer.2 ++ [line] <+: after.host.transport.peer.2
  whole : after.host.transport.alive = true →
    after.host.transport.peer.2 = before.host.transport.peer.2 ++ lines

/-- A process hears the lines of the commands that have been passed on to it. -/
theorem hears_of_after {before after : World (Session (Pipe (π × List String)))}
    {texts : List String} (passed : after.host.transport =
      (Transport.ofPeer peer.recorded).after texts before.host.transport) :
    Hears peer before after (texts.map encodeCommand) := by
  obtain ⟨received, whole⟩ := after_recorded peer texts before.host.transport
  rw [← passed] at received whole
  refine ⟨received, ?_, fun later => ?_⟩
  · intro alive line first
    rw [received, alive]
    cases texts with
    | nil => cases first
    | cons text rest =>
      cases first
      rw [List.map_cons, Peer.heard_cons_of_alive]
      exact (List.prefix_append_right_inj _).2 (List.singleton_append ▸ List.prefix_append _ _)
  · rw [received, (whole later).2]

end Pipes

/-! ## The session during a run -/

section Run

variable (f : Frontend τ) (args : String) (w : World (Session τ))

/-- A session with what it has received since it was `start`. -/
def Session.Follows (t : Transport τ) (start : Session τ) (x : Session τ × List Received) : Prop :=
  x.1 = x.2.foldl (serve t) start

/-- A session that writes down what it receives follows what is written down. -/
theorem recorded_keeps (start : Session τ) :
    ((sessionHost f.transport).recorded.channel f.setup).Keeps fun x _ =>
      Session.Follows f.transport start x where
  command text w follows := by
    have served : Session.serve f.transport w.host.1 (.command text w.scripts.state) =
        (w.host.1.command f.transport text).2.2 := rfl
    simp only [Host.channel, Host.recorded, HostAction.thenSet, sessionHost_command]
    -- What the command does is settled, and must not be evaluated again.
    generalize w.host.1.command f.transport text = ended at served ⊢
    refine Host.perform_keeps (I := Session.Follows f.transport start) ?_ follows
    refine (noteEach_ends (I := fun x => x = ended.2.2) ended.2.1 (.ok ended.1) rfl).bind ?_
    rintro ⟨result, after⟩ rfl
    simp only [Interaction.Ends, Session.Follows, List.foldl_append, List.foldl_cons,
      List.foldl_nil]
    rw [← show w.host.1 = _ from follows, served]
  print text w follows := by
    have served : Session.serve f.transport w.host.1 (.print text w.scripts.state) =
        (w.host.1.print text).2 := rfl
    simp only [Host.channel, Host.recorded, HostAction.thenSet, sessionHost_print]
    generalize w.host.1.print text = ended at served ⊢
    refine Host.perform_keeps (I := Session.Follows f.transport start) ?_ follows
    refine (noteEach_ends (I := fun x => x = ended.2) ended.1 (.ok ()) rfl).bind ?_
    rintro ⟨result, after⟩ rfl
    simp only [Interaction.Ends, Session.Follows, List.foldl_append, List.foldl_cons,
      List.foldl_nil]
    rw [← show w.host.1 = _ from follows, served]

/-- A run leaves the session as what it has received leaves it. -/
theorem run_session :
    (ScriptHost.run f.setup (some f.channel) args w).2.host =
      (ScriptHost.received f.setup (sessionHost f.transport) args w).foldl
        (Session.serve f.transport) w.host := by
  have keeps : ∀ p ∈ some ((sessionHost f.transport).recorded.channel f.setup),
      p.Keeps fun x _ => Session.Follows f.transport w.host x := by
    intro p hp
    rw [← Option.some.inj hp]
    exact recorded_keeps f w.host
  have start : Session.Follows f.transport w.host (ScriptHost.unheard w).host := rfl
  have kept := ScriptHost.run_keeps keeps f.setup args (w := ScriptHost.unheard w) start
  rw [Frontend.channel, ScriptHost.run_recorded f.setup (sessionHost f.transport) args w [],
    ScriptHost.received]
  generalize ScriptHost.run f.setup (some ((sessionHost f.transport).recorded.channel f.setup)) args
    (w.withHost (w.host, [])) = written at kept ⊢
  exact kept

/-- Every command that the session receives in a run is one that the run asks for. -/
theorem asksAt_of_received {text : String} (prompt : AtPrompt w)
    (mem : text ∈ (ScriptHost.received f.setup (sessionHost f.transport) args w).filterMap
      Received.command?) :
    ∃ before,
      ScriptHost.AsksAt f.setup (sessionHost f.transport) args w (.command text) before := by
  obtain ⟨r, received, same⟩ := List.mem_filterMap.1 mem
  have asked := (ScriptHost.received_handed prompt.free prompt.idle).1.subset received
  obtain ⟨⟨q, before⟩, met, hands⟩ := List.mem_filterMap.1 asked
  cases r with
  | print text state => cases same
  | command other state =>
    cases same
    cases q <;> cases hands
    exact ⟨before, prompt.idle, Interaction.mem_trail_iff.1 met⟩

end Run

/-! ## Commands of the plugin -/

section Dispatch

variable (f : Frontend τ) {w : World (Session τ)}

/-- A print on the session never panics. -/
theorem print_ne_panicked :
    ∀ p ∈ some f.channel, ∀ text v panic, (p.print text v).1 ≠ .panicked panic := by
  intro p hp text v panic
  rw [← Option.some.inj hp, f.channel_print]
  exact nofun

/-- Neither a command nor a print leaves the session in use. -/
theorem channel_keeps_free : ∀ p ∈ some f.channel, p.Keeps fun _ borrowed => borrowed = false := by
  intro p hp
  rw [← Option.some.inj hp]
  refine ⟨fun text w _ => ?_, fun text w _ => ?_⟩
  · rw [f.channel_command]
  · rw [f.channel_print]

/-- A run on a session comes to an end without a panic, and back at the prompt, or the process goes
no further. -/
theorem run_ends (prompt : AtPrompt w) (args : String) :
    (∃ result, (ScriptHost.run f.setup (some f.channel) args w).1 = .finished result ∧
        AtPrompt (ScriptHost.run f.setup (some f.channel) args w).2) ∨
      ∃ halt, (ScriptHost.run f.setup (some f.channel) args w).1 = .halted halt := by
  have calm := ScriptHost.run_ne_panicked f.setup (print_ne_panicked f) args w
  have free := ScriptHost.run_keeps (channel_keeps_free f) f.setup args prompt.free
  cases ended : (ScriptHost.run f.setup (some f.channel) args w).1 with
  | panicked panic => exact absurd ended (calm panic)
  | halted halt => exact .inr ⟨halt, rfl⟩
  | finished result =>
    refine .inl ⟨result, rfl, ?_, free⟩
    rw [ScriptHost.run_snd prompt.idle (by rw [ended]; rfl)]
    rfl

/-- A command that runs scripts decompiles with its arguments. -/
theorem dispatch_scripts {c : Command} {args : String} (runs : c.scriptArgs = some args) :
    Plugin.dispatch f.setup (some f.channel) c w =
      Plugin.decompile f.setup (some f.channel) args w := by
  cases c <;> cases runs <;> rfl

/-- An upgrade runs its command and prints the reply. -/
theorem dispatch_upgrade (free : w.borrowed = false) :
    Plugin.dispatch f.setup (some f.channel) .upgrade w =
      f.channel.print (w.host.command f.transport Command.upgradeLine).1
        (f.channel.command Command.upgradeLine w).2 := by
  rw [Plugin.dispatch, Plugin.upgrade, Plugin.freeChannel, free]
  simp only [f.channel_command, Bool.false_eq_true, if_false]

/-- Asking for help prints the usage. -/
theorem dispatch_help (free : w.borrowed = false) :
    Plugin.dispatch f.setup (some f.channel) .help w = f.channel.print Command.usage w := by
  rw [Plugin.dispatch, Plugin.help, Plugin.freeChannel, free]
  rfl

/-- A command of the plugin comes to an end at the prompt, unless it runs scripts and the process
goes no further. -/
theorem dispatch_ends (prompt : AtPrompt w) (c : Command) :
    ((Plugin.dispatch f.setup (some f.channel) c w).1 = .finished () ∧
        AtPrompt (Plugin.dispatch f.setup (some f.channel) c w).2) ∨
      c.scriptArgs ≠ none ∧
        ∃ halt, (Plugin.dispatch f.setup (some f.channel) c w).1 = .halted halt := by
  cases runs : c.scriptArgs with
  | some args =>
    rw [dispatch_scripts f runs, Plugin.decompile]
    rcases ended : ScriptHost.run f.setup (some f.channel) args w with ⟨outcome, after⟩
    have ends := run_ends f prompt args
    rw [ended] at ends
    rcases ends with ⟨result, rfl, again⟩ | ⟨halt, rfl⟩
    · cases result with
      | ok _ => exact .inl ⟨rfl, again⟩
      | error e => exact .inl ⟨rfl, again.idle, again.free⟩
    · exact .inr ⟨Option.some_ne_none args, halt, rfl⟩
  | none =>
    cases c <;> cases runs
    · rw [dispatch_upgrade f prompt.free, f.channel_print, f.channel_command]
      exact .inl ⟨rfl, prompt.idle, rfl⟩
    · rw [dispatch_help f prompt.free, f.channel_print]
      exact .inl ⟨rfl, prompt.idle, rfl⟩

end Dispatch

/-! ## Lines -/

/-- A line prints the completions of what it says and does nothing else. -/
structure ListsCompletions (f : Frontend τ) (line rest : String) (w : World (Session τ)) :
    Prop where
  proceeds : (f.execute line w).1 = .finished .proceed
  session : (f.execute line w).2.host = { w.host with output := (w.host.output.print
    (Frontend.completionListing w.host.completions (trimStart rest))).2 }
  again : AtPrompt (f.execute line w).2

/-- A line with the letters of the plugin and a rest is its command, and is not passed on. It comes
to an end unless a script does not, or the process is told to end on a fault. Scripts alone use the
session, in the way and order in which the run asks for it. -/
structure RunsCommand (f : Frontend τ) (line rest : String) (w : World (Session τ)) : Prop where
  ends : (f.execute line w).1 = .finished .proceed ∨
    (Command.ofRest rest).scriptArgs ≠ none ∧ ∃ halt, (f.execute line w).1 = .halted halt
  session : ∀ args, (Command.ofRest rest).scriptArgs = some args →
    (f.execute line w).2.host = (ScriptHost.received f.setup (sessionHost f.transport) args
      (w.note (Command.routeRecord rest))).foldl (Session.serve f.transport) w.host
  scripts : ∀ args, (Command.ofRest rest).scriptArgs = some args →
    let commands := (ScriptHost.received f.setup (sessionHost f.transport) args
      (w.note (Command.routeRecord rest))).filterMap Received.command?
    (f.execute line w).2.host.transport =
        f.transport.after (forwarded commands) w.host.transport ∧
      ∀ text ∈ commands, ∃ before, ScriptHost.AsksAt f.setup (sessionHost f.transport) args
        (w.note (Command.routeRecord rest)) (.command text) before
  upgrade : startsWith rest "u" = true → (f.execute line w).2.host.transport =
    (f.transport.send Command.upgradeLine w.host.transport).2
  help : (Command.ofRest rest).scriptArgs = none → startsWith rest "u" = false →
    (f.execute line w).2.host.transport = w.host.transport
  again : (f.execute line w).1.halt? = none → AtPrompt (f.execute line w).2

/-- What the plugin prints before a line is passed on. -/
def announcement (line : String) : String :=
  if startsWith line "e cmd.pdc" ∧ '=' ∈ line.toList ∧ '?' ∈ line.toList then "r2dec\n" else ""

/-- A line is given to the session once as a command, and the reply is printed once. -/
structure PassesOn (f : Frontend τ) (line : String) (w : World (Session τ)) : Prop where
  proceeds : (f.execute line w).1 = .finished .proceed
  session : (f.execute line w).2.host =
    { (w.host.command f.transport (trim line)).2.2 with
      output := ((if announcement (trim line) = "" then w.host.output
        else (w.host.output.print (announcement (trim line))).2).print
          (w.host.command f.transport (trim line)).1).2 }
  once : preferenceExpression? (trim line) = none → (f.execute line w).2.host.transport =
    (f.transport.send (trim line) w.host.transport).2
  preference : preferenceExpression? (trim line) ≠ none →
    (f.execute line w).2.host.transport = w.host.transport
  written : w.host.output.fault = none → (f.execute line w).2.host.output.written =
    w.host.output.written ++ announcement (trim line) ++
      (w.host.command f.transport (trim line)).1
  again : AtPrompt (f.execute line w).2

/-- Of a line that is passed on, radare2 gets the text, unless the session serves that itself. -/
theorem PassesOn.transport {f : Frontend τ} {line : String} {w : World (Session τ)}
    (passes : PassesOn f line w) : (f.execute line w).2.host.transport =
      f.transport.after (forwarded [trim line]) w.host.transport := by
  cases served : preferenceExpression? (trim line) with
  | none =>
    have sent : forwarded [trim line] = [trim line] := by simp [forwarded, served]
    rw [passes.once served, sent]
    rfl
  | some expression =>
    have kept : forwarded [trim line] = [] := by simp [forwarded, served]
    rw [passes.preference (Option.ne_none_iff_exists'.2 ⟨expression, served⟩), kept]
    rfl

/-- An upgrade is told by its letter. -/
theorem ofRest_eq_upgrade_iff {rest : String} :
    Command.ofRest rest = .upgrade ↔ startsWith rest "u" = true := by
  unfold Command.ofRest startsWith
  split <;> simp_all [List.isPrefixOf]
  exact Ne.symm ‹_›

/-- The announcement is the name of the plugin, if it is asked for. -/
theorem announcement_eq (line : String) :
    announcement line = if Plugin.isProbe line then Plugin.name ++ "\n" else "" := by
  have same : Plugin.isProbe line = true ↔
      startsWith line "e cmd.pdc" = true ∧ '=' ∈ line.toList ∧ '?' ∈ line.toList :=
    Plugin.isProbe_iff
  unfold announcement
  split
  · next probe => rw [if_pos (same.2 probe)]; rfl
  · next other => rw [if_neg fun probe => other (same.1 probe)]

section Lines

variable (f : Frontend τ) {line : String} {w : World (Session τ)}

/-- A blank line does nothing, and two words tell the session to stop. -/
theorem execute_silent (silent : trim line = "" ∨ trim line = "q" ∨ trim line = "quit") :
    f.execute line w =
      (.finished (if trim line = "q" ∨ trim line = "quit" then .quit else .proceed), w) := by
  unfold Frontend.execute
  rcases silent with own | own | own <;> simp [own]

/-- A line with the letters of the listing prints the completions of what follows them. -/
theorem execute_listing {rest : String} (asked : trim line = ".complete" ++ rest) :
    f.execute line w = (.finished .proceed, Frontend.printText
      (Frontend.completionListing w.host.completions (trimStart rest)) w) := by
  have letters : (trim line).toList = ".complete".toList ++ rest.toList := by
    rw [asked, String.toList_append]
  have other : ∀ text : String, text.toList.head? ≠ some '.' → trim line ≠ text := by
    rintro text unlike rfl
    rw [letters] at unlike
    exact unlike rfl
  have own : ¬(trim line = "q" ∨ trim line = "quit") :=
    not_or.2 ⟨other _ (by simp), other _ (by simp)⟩
  unfold Frontend.execute
  simp only [if_neg (other "" (by simp)), if_neg own, stripLead_eq_some_iff.2 asked]

/-- Such a line lists completions and does nothing else. -/
theorem execute_complete {rest : String} (prompt : AtPrompt w)
    (asked : trim line = ".complete" ++ rest) : ListsCompletions f line rest w := by
  have executed := execute_listing f (w := w) asked
  refine ⟨by rw [executed], ?_, ?_⟩
  · rw [executed, Frontend.printText]
    exact Session.print_snd _ _
  · rw [executed]
    exact ⟨prompt.idle, prompt.free⟩

/-- A line with the letters of the plugin runs its command. -/
theorem execute_plugin {rest : String} (prompt : AtPrompt w)
    (routed : trim line = Command.lead ++ rest) : RunsCommand f line rest w := by
  have routing : AtPrompt (w.note (Command.routeRecord rest)) := ⟨prompt.idle, prompt.free⟩
  have executed := execute_routed f (stripLead_eq_some_iff.2 routed) w
  have session : ∀ args, (Command.ofRest rest).scriptArgs = some args →
      (f.execute line w).2.host = (ScriptHost.received f.setup (sessionHost f.transport) args
        (w.note (Command.routeRecord rest))).foldl (Session.serve f.transport) w.host := by
    intro args runs
    have host := run_session f args (w.note (Command.routeRecord rest))
    rw [executed, Plugin.answerWith_snd, dispatch_scripts f runs, Plugin.decompile]
    rcases ended : ScriptHost.run f.setup (some f.channel) args
        (w.note (Command.routeRecord rest)) with ⟨(_ | _) | _ | _, after⟩ <;>
      rw [ended] at host <;> exact host
  constructor
  case ends =>
    rw [executed]
    rcases Plugin.answerWith_cases Flow.proceed (dispatch_ends f routing (.ofRest rest)) with
      ⟨ended, -⟩ | halted
    · exact .inl ended
    · exact .inr halted
  case again =>
    intro going
    rw [executed] at going ⊢
    rcases Plugin.answerWith_cases Flow.proceed (dispatch_ends f routing (.ofRest rest)) with
      ⟨-, again⟩ | ⟨-, halt, halted⟩
    · exact again
    · rw [halted] at going
      cases going
  case session => exact session
  case scripts =>
    intro args runs commands
    refine ⟨?_, fun text mem => asksAt_of_received f args _ routing mem⟩
    rw [session args runs, Session.foldl_serve_transport]
  case upgrade =>
    intro letter
    have sent : forwarded [Command.upgradeLine] = [Command.upgradeLine] := by decide +kernel
    have reached := Session.command_transport f.transport Command.upgradeLine w.host
    rw [sent] at reached
    rw [executed, Plugin.answerWith_snd, ofRest_eq_upgrade_iff.2 letter,
      dispatch_upgrade f routing.free, f.channel_print, f.channel_command, Session.print_snd]
    exact reached
  case help =>
    intro runs letter
    have help : Command.ofRest rest = .help := by
      cases command : Command.ofRest rest <;> rw [command] at runs <;> cases runs
      rw [ofRest_eq_upgrade_iff.1 command] at letter
      cases letter
    rw [executed, Plugin.answerWith_snd, help, dispatch_help f routing.free, f.channel_print,
      Session.print_snd]
    rfl

/-- The plugin takes a text with its letters as its command. -/
theorem call_routed {text rest : String} (routed : text = Command.lead ++ rest) :
    Plugin.call f.setup (some f.channel) text w = Plugin.answerWith true (Plugin.dispatch f.setup
      (some f.channel) (.ofRest rest) (w.note (Command.routeRecord rest))) := by
  have starts := startsWith_iff.2 ⟨rest, routed⟩
  have other : ¬Plugin.isProbe text = true := by
    intro probe
    rw [Plugin.startsWith_lead_of_isProbe probe] at starts
    cases starts
  rw [Plugin.call, if_neg other, stripLead_eq_some_iff.2 routed]

/-- The plugin hands back every line without its letters, and prints its name if it is asked for. -/
theorem call_others (free : w.borrowed = false) {text : String}
    (others : startsWith text Command.lead = false) :
    Plugin.call f.setup (some f.channel) text w = (.finished false,
      if announcement text = "" then w else (f.channel.print (announcement text) w).2) := by
  have stripped := stripLead_eq_none_iff.2 others
  rw [Plugin.call, stripped, announcement_eq]
  cases Plugin.isProbe text with
  | false => simp
  | true =>
    rw [World.printLine_eq, free]
    simp only [f.channel_print, if_true]
    rfl

/-- A command that is passed on changes the session as the command does, and prints its reply. -/
theorem passOn_host (text : String) (v : World (Session τ)) (output : Output)
    (host : v.host = { w.host with output := output }) :
    (f.passOn text v).host = { (w.host.command f.transport text).2.2 with
      output := (output.print (w.host.command f.transport text).1).2 } := by
  simp only [Frontend.passOn, Frontend.printText, host, Session.command_withOutput,
    Session.print_snd]

/-- Every other line is passed on. -/
theorem execute_others (prompt : AtPrompt w)
    (own : ¬(trim line = "" ∨ trim line = "q" ∨ trim line = "quit"))
    (unlisted : startsWith (trim line) ".complete" = false)
    (others : startsWith (trim line) Command.lead = false) : PassesOn f line w := by
  obtain ⟨full, going⟩ := not_or.1 own
  have called := call_others f prompt.free others
  obtain ⟨v, executed, host, again⟩ : ∃ v, f.execute line w =
      (.finished .proceed, f.passOn (trim line) v) ∧
        v.host = { w.host with output := if announcement (trim line) = "" then w.host.output
          else (w.host.output.print (announcement (trim line))).2 } ∧ AtPrompt v := by
    refine ⟨if announcement (trim line) = "" then w
      else (f.channel.print (announcement (trim line)) w).2, ?_, ?_⟩
    · unfold Frontend.execute
      simp only [if_neg full, if_neg going, stripLead_eq_none_iff.2 unlisted, called]
    · split
      · exact ⟨rfl, prompt⟩
      · rw [f.channel_print]
        exact ⟨Session.print_snd _ _, prompt.idle, rfl⟩
  have session := (congrArg (fun ended => ended.2.host) executed).trans
    (passOn_host f (trim line) v _ host)
  have transport := Session.command_transport f.transport (trim line) w.host
  constructor
  case proceeds => rw [executed]
  case again =>
    rw [executed]
    exact again.passOn _
  case session => exact session
  case once =>
    intro other
    have sent : forwarded [trim line] = [trim line] := by simp [forwarded, other]
    rw [session, transport, sent]
    rfl
  case preference =>
    intro served
    have kept : forwarded [trim line] = [] := by
      simpa [forwarded, Option.isNone_iff_eq_none] using served
    rw [session, transport, kept]
    rfl
  case written =>
    intro sound
    rw [session]
    split
    · next nothing => simp [Output.print, sound, nothing]
    · next something => simp [Output.print, sound, String.append_assoc]

/-- A line that is not the shell's own does not stop the session, and leads back to the prompt
unless the process goes no further. -/
theorem execute_goes_on (prompt : AtPrompt w)
    (own : ¬(trim line = "" ∨ trim line = "q" ∨ trim line = "quit")) :
    (f.execute line w).1 ≠ .finished .quit ∧
      ((f.execute line w).1.halt? = none → AtPrompt (f.execute line w).2) := by
  cases complete : startsWith (trim line) ".complete" with
  | true =>
    obtain ⟨rest, whole⟩ := startsWith_iff.1 complete
    have lists := execute_complete f prompt whole
    refine ⟨?_, fun _ => lists.again⟩
    rw [lists.proceeds]
    simp
  | false =>
    cases letters : startsWith (trim line) Command.lead with
    | true =>
      obtain ⟨rest, whole⟩ := startsWith_iff.1 letters
      have runs := execute_plugin f prompt whole
      refine ⟨?_, runs.again⟩
      rcases runs.ends with proceeds | ⟨-, halt, halted⟩
      · rw [proceeds]
        simp
      · rw [halted]
        simp
    | false =>
      have passes := execute_others f prompt own complete letters
      refine ⟨?_, fun _ => passes.again⟩
      rw [passes.proceeds]
      simp

/-- Registering the plugin leaves the session at its prompt. -/
theorem AtPrompt.init (prompt : AtPrompt w) : AtPrompt (f.init w).2 := by
  simp only [Frontend.init, Plugin.init]
  -- the completions that are added do not matter
  generalize Plugin.completionEntries.foldl _ _ = completed
  split
  · exact ⟨prompt.idle, prompt.free⟩
  · exact ⟨prompt.idle, prompt.free⟩

end Lines

/-- Where a line goes is decided by the trimmed line. A session is told to stop by two words alone;
these and a blank line change nothing; a line that asks for completions prints them; a line with the
letters of the plugin is its command; and every other line is passed on. The answer of the plugin
tells its own lines from the others. Unless the process goes no further, the session is at its
prompt again. -/
structure GoesOneWay (f : Frontend τ) (line : String) (w : World (Session τ)) : Prop where
  quits : (f.execute line w).1 = .finished .quit ↔ trim line = "q" ∨ trim line = "quit"
  silent : trim line = "" ∨ trim line = "q" ∨ trim line = "quit" → (f.execute line w).2 = w
  lists : ∀ rest, trim line = ".complete" ++ rest → ListsCompletions f line rest w
  runs : ∀ rest, trim line = "pdd" ++ rest → RunsCommand f line rest w
  passes : ¬(trim line = "" ∨ trim line = "q" ∨ trim line = "quit") →
    startsWith (trim line) ".complete" = false → startsWith (trim line) "pdd" = false →
      PassesOn f line w
  answers : ∀ text,
    (Plugin.call f.setup (some f.channel) text w).1 = .finished (startsWith text "pdd") ∨
      startsWith text "pdd" = true ∧
        ∃ halt, (Plugin.call f.setup (some f.channel) text w).1 = .halted halt
  tells : ∀ (η : Type) (s : Setup) (channel : Option (HostChannel η)) (text : String) (v : World η)
    (answer : Bool), (Plugin.call s channel text v).1 = .finished answer →
      (answer = true ↔ startsWith text "pdd" = true)
  again : (f.execute line w).1.halt? = none → AtPrompt (f.execute line w).2

/-- Every line goes one way, however the session reaches radare2. -/
theorem execute_goes_one_way (f : Frontend τ) {w : World (Session τ)} (prompt : AtPrompt w)
    (line : String) : GoesOneWay f line w := by
  have silent : trim line = "" ∨ trim line = "q" ∨ trim line = "quit" → f.execute line w =
      (.finished (if trim line = "q" ∨ trim line = "quit" then .quit else .proceed), w) :=
    execute_silent f
  have others : ¬(trim line = "" ∨ trim line = "q" ∨ trim line = "quit") →
      (f.execute line w).1 ≠ .finished .quit ∧
        ((f.execute line w).1.halt? = none → AtPrompt (f.execute line w).2) :=
    execute_goes_on f prompt
  constructor
  case lists => exact fun rest => execute_complete f prompt
  case runs => exact fun rest => execute_plugin f prompt
  case passes => exact execute_others f prompt
  case quits =>
    constructor
    · intro quits
      by_cases own : trim line = "" ∨ trim line = "q" ∨ trim line = "quit"
      · by_contra going
        rw [silent own, if_neg going] at quits
        cases quits
      · exact absurd quits (others own).1
    · intro going
      rw [silent (.inr going), if_pos going]
  case silent =>
    intro own
    rw [silent own]
  case answers =>
    intro text
    cases letters : startsWith text "pdd" with
    | false =>
      rw [call_others f prompt.free letters]
      exact .inl rfl
    | true =>
      obtain ⟨rest, whole⟩ := startsWith_iff.1 letters
      have routing : AtPrompt (w.note (Command.routeRecord rest)) := ⟨prompt.idle, prompt.free⟩
      rw [call_routed f whole]
      rcases Plugin.answerWith_cases true (dispatch_ends f routing (.ofRest rest)) with
        ⟨ended, -⟩ | ⟨-, halted⟩
      · exact .inl ended
      · exact .inr ⟨rfl, halted⟩
  case tells =>
    intro η s channel text v answer answered
    rw [Plugin.call_answer s channel text v answered]
    rfl
  case again =>
    intro going
    by_cases own : trim line = "" ∨ trim line = "q" ∨ trim line = "quit"
    · rw [silent own]
      exact prompt
    · exact (others own).2 going

/-! ## Lines to a process -/

section Watching

variable {π : Type}

/-- A shell on a process that writes down the lines that it receives. -/
def watching (peer : Peer π) (s : Setup) : Frontend (Pipe (π × List String)) :=
  ⟨Transport.ofPeer peer.recorded, s⟩

/-- Of a line with the letters of the plugin, the process hears what the scripts give to the session
as commands, one line for each that is no preference, or the command of an upgrade. -/
structure HearsCommand (peer : Peer π) (s : Setup) (line rest : String)
    (w : World (Session (Pipe (π × List String)))) : Prop where
  scripts : ∀ args, (Command.ofRest rest).scriptArgs = some args →
    Hears peer w ((watching peer s).execute line w).2 (sentLines
      ((ScriptHost.received s (sessionHost (watching peer s).transport) args
        (w.note (Command.routeRecord rest))).filterMap Received.command?))
  upgrade : startsWith rest "u" = true →
    Hears peer w ((watching peer s).execute line w).2 ["!r2pm -ci r2dec"]
  help : (Command.ofRest rest).scriptArgs = none → startsWith rest "u" = false →
    ((watching peer s).execute line w).2.host.transport = w.host.transport

/-- Every line goes one way (`GoesOneWay`), and the process at the other end of the pipe hears of it
what belongs to this way and nothing else. A command of the plugin is heard through its scripts or
its upgrade alone. A line that is passed on is heard once, in the one line that is made of it, and
not at all if it is about a preference; without a newline in it, this is the line itself. -/
theorem line_goes_one_way (peer : Peer π) (s : Setup)
    {w : World (Session (Pipe (π × List String)))} (prompt : AtPrompt w) (line : String) :
    let l := trim line
    let ended := (watching peer s).execute line w
    GoesOneWay (watching peer s) line w ∧
      (∀ rest, l = "pdd" ++ rest → HearsCommand peer s line rest w) ∧
      (¬(l = "" ∨ l = "q" ∨ l = "quit") → startsWith l ".complete" = false →
        startsWith l "pdd" = false → Hears peer w ended.2 (sentLines [l])) ∧
      (preferenceExpression? l = none → sentLines [l] = [encodeCommand l]) ∧
      (preferenceExpression? l ≠ none → sentLines [l] = []) ∧
      ('\n' ∉ l.toList → encodeCommand l = l) := by
  intro l ended
  have ways := execute_goes_one_way (watching peer s) prompt line
  refine ⟨ways, ?_, ?_, ?_, ?_, encodeCommand_of_notMem⟩
  · intro rest routed
    have runs := ways.runs rest routed
    constructor
    case scripts => exact fun args asked => hears_of_after peer (runs.scripts args asked).1
    case upgrade =>
      intro letter
      have encoded : [Command.upgradeLine].map encodeCommand = ["!r2pm -ci r2dec"] := by
        decide +kernel
      rw [← encoded]
      exact hears_of_after peer (runs.upgrade letter)
    case help => exact runs.help
  · intro own unlisted others
    show Hears peer w _ ((forwarded [trim line]).map encodeCommand)
    exact hears_of_after peer (ways.passes own unlisted others).transport
  · exact fun served => sentLines_cons_of_command [] served
  · intro served
    obtain ⟨expression, served⟩ := Option.ne_none_iff_exists'.1 served
    exact sentLines_cons_of_preference [] served

/-- On a session with a process that counts its lines, the question for the decompilers is answered
by the plugin and, as the only line, by radare2; an upgrade sends its own command in place of the
line; and a preference is read without radare2. -/
theorem line_goes_one_way_counting :
    let f := watching countingPeer echoingSetup
    let w := (f.init { host := { transport := ⟨(0, []), [], true⟩ } }).2
    AtPrompt w ∧
      (f.execute " e cmd.pdc=? " w).2.host.output.written = "r2dec\n\uFFFDe cmd.pdc=?" ∧
      (f.execute " e cmd.pdc=? " w).2.host.transport.peer.2 = ["e cmd.pdc=?"] ∧
      (f.execute "px\npd" w).2.host.transport.peer.2 = ["px;pd"] ∧
      (f.execute "pddu now" w).2.host.transport.peer.2 = ["!r2pm -ci r2dec"] ∧
      (f.execute "e r2dec.theme" w).2.host.transport.peer.2 = [] ∧
      (f.execute "\tquit\n" w).1 = .finished .quit := by
  intro f w
  have prompt : AtPrompt w := AtPrompt.init f ⟨rfl, rfl⟩
  have ways := fun line => line_goes_one_way countingPeer echoingSetup prompt line
  obtain ⟨probing, -, probe, -⟩ := ways " e cmd.pdc=? "
  obtain ⟨-, -, two, -⟩ := ways "px\npd"
  obtain ⟨-, upgrade, -⟩ := ways "pddu now"
  obtain ⟨-, -, preference, -⟩ := ways "e r2dec.theme"
  obtain ⟨quitting, -⟩ := ways "\tquit\n"
  have probed := probing.passes (by decide +kernel) (by decide +kernel) (by decide +kernel)
  refine ⟨prompt, ?_, ?_, ?_, ?_, ?_, ?_⟩
  · rw [probed.written (by decide +kernel)]
    decide +kernel
  · rw [(probe (by decide +kernel) (by decide +kernel) (by decide +kernel)).received]
    decide +kernel
  · rw [(two (by decide +kernel) (by decide +kernel) (by decide +kernel)).received]
    decide +kernel
  · rw [((upgrade "u now" (by decide +kernel)).upgrade (by decide +kernel)).received]
    decide +kernel
  · rw [(preference (by decide +kernel) (by decide +kernel) (by decide +kernel)).received]
    decide +kernel
  · exact quitting.quits.2 (.inr (by decide +kernel))

/-- A line with a newline inside is passed on, but is not what radare2 receives. -/
theorem inner_newline_encoded :
    let f := watching countingPeer echoingSetup
    let w := (f.init { host := { transport := ⟨(0, []), [], true⟩ } }).2
    AtPrompt w ∧ trim "px\npd" = "px\npd" ∧ startsWith "px\npd" ".complete" = false ∧
      startsWith "px\npd" "pdd" = false ∧ preferenceExpression? "px\npd" = none ∧
      (f.execute "px\npd" w).2.host.transport.peer.2 = ["px;pd"] := by
  intro f w
  have prompt : AtPrompt w := AtPrompt.init f ⟨rfl, rfl⟩
  have trimmed : trim "px\npd" = "px\npd" := by decide +kernel
  have other : preferenceExpression? (trim "px\npd") = none := by decide +kernel
  have passes : PassesOn f "px\npd" w :=
    execute_others f prompt (by decide +kernel) (by decide +kernel) (by decide +kernel)
  refine ⟨prompt, trimmed, by decide +kernel, by decide +kernel, by decide +kernel, ?_⟩
  rw [passes.once other]
  decide +kernel

end Watching

end Shell

end DecompilerBridge
