import DecompilerBridge.Proofs.Bridge.Unseen
import DecompilerBridge.Proofs.Run.HostPanic

/-!
# Every request of a run reaches the host

The natives and the diagnostics of a run look at the link and at the host before they use it, and
would otherwise throw an error at the script, or drop the line. In a run that starts on a host that
is free they never have to: no use of the host is open at any moment at which a script runs, be it
the conversion of an argument, of a thrown value that is being reported, or a module inside a
native.

The looks are left out in `HostChannel.serve`. While the host is linked and free it answers every
request of a run as the run's own handler does (`World.answer_eq_serve`), and that is so at every
request (`AsksAt.atHand`). What a run asks of the host is therefore what the host receives
(`received_handed`), also if the host runs the scripts again while it serves.
-/

set_option autoImplicit false

namespace DecompilerBridge

open Script (jsonInterpreter)

variable {η : Type}

/-! ## The host without the looks -/

/-- Answer a request of a run without a look at the link or at the host. -/
def HostChannel.serve (p : HostChannel η) :
    (q : HostRequest) → World η → Except Halt q.Reply × World η
  | .command text, w => ((p.command text w).1.toAccess, (p.command text w).2)
  | .print text, w => ((p.print text w).1.toAccess, (p.print text w).2)
  | .diagnose line, w => ((p.print (line ++ "\n") w).1.toDiagnosis, (p.print (line ++ "\n") w).2)
  | q, w => World.answer none q w

/-- A host that is linked and free serves the request. -/
theorem World.answer_eq_serve (p : HostChannel η) (q : HostRequest) {w : World η}
    (linked : w.scripts.linkage = .linked) (free : w.borrowed = false) :
    World.answer (some p) q w = p.serve q w := by
  cases q with
  | command text =>
    show w.access (some p) (fun p => p.command text) = _
    rw [World.access_eq, linked, free]
    rfl
  | print text =>
    show w.access (some p) (fun p => p.print text) = _
    rw [World.access_eq, linked, free]
    rfl
  | diagnose line =>
    show w.diagnose (some p) line = _
    rw [World.diagnose_eq, linked, free]
    rfl
  | log record => rfl
  | event e => rfl
  | enter state => rfl
  | countEngine => rfl
  | readings => rfl

/-- A use of the host in which it does not panic brings no panic. -/
theorem World.access_calm {α : Type} {channel : Option (HostChannel η)} {w : World η}
    {use : HostChannel η → World η → Outcome α × World η}
    (calm : ∀ p ∈ channel, ∀ panic, (use p w).1 ≠ .panicked panic) {r : Access α}
    (answered : (w.access channel use).1 = .ok r) : r.panic? = none := by
  rcases World.access_cases channel use w with ⟨p, hp, -, -, used⟩ | refused | refused
  · rw [used] at answered
    cases ended : (use p w).1 with
    | finished a =>
      rw [ended] at answered
      cases answered
      rfl
    | panicked panic => exact absurd ended (calm p hp panic)
    | halted h =>
      rw [ended] at answered
      cases answered
  · rw [refused] at answered
    cases answered
    rfl
  · rw [refused] at answered
    cases answered
    rfl

/-- Nor does a diagnostic. -/
theorem World.diagnose_calm {channel : Option (HostChannel η)} {w : World η} {line : String}
    (calm : ∀ p ∈ channel, ∀ panic, (p.print (line ++ "\n") w).1 ≠ .panicked panic)
    {r : Except Panic Unit} (answered : (w.diagnose channel line).1 = .ok r) :
    HostRequest.panic? (.diagnose line) r = none := by
  rcases World.diagnose_cases channel line w with ⟨p, hp, -, -, printed⟩ | ⟨_, noted⟩
  · rw [printed] at answered
    cases ended : (p.print (line ++ "\n") w).1 with
    | finished a =>
      rw [ended] at answered
      cases answered
      rfl
    | panicked panic => exact absurd ended (calm p hp panic)
    | halted h =>
      rw [ended] at answered
      cases answered
  · rw [noted] at answered
    cases answered
    rfl

/-- A native whose request the host has served gives the host's result or passes its panic on. It
throws nothing of its own. -/
theorem Outcome.granted_toAccess {α : Type} (E : ScriptEngine) (serve : Natives E.State E.Value)
    (native : String) {outcome : Outcome α} {r : Access α} (served : outcome.toAccess = .ok r) :
    (∃ a, outcome = .finished a ∧ E.granted serve native r = pure a) ∨
      ∃ p, outcome = .panicked p ∧ E.granted serve native r = throw (.unwound p) := by
  cases outcome with
  | finished a =>
    cases served
    exact .inl ⟨a, rfl, rfl⟩
  | panicked p =>
    cases served
    exact .inr ⟨p, rfl, rfl⟩
  | halted h => cases served

/-! ## What a request hands to the host -/

/-- What a request hands to the host, in a state of the scripts. -/
def HostRequest.handed (q : HostRequest) (state : EngineState) : Option Received :=
  match q with
  | .command text => some (.command text state)
  | .print text => some (.print text state)
  | .diagnose line => some (.print (line ++ "\n") state)
  | _ => none

/-- What a list of requests hands to the host, in order. -/
def handed (asked : List (HostRequest × World η)) : List Received :=
  asked.filterMap fun (q, w) => q.handed w.scripts.state

/-- What is handed over in two parts is handed over in one. -/
theorem handed_append (first second : List (HostRequest × World η)) :
    handed (first ++ second) = handed first ++ handed second := by
  simp [handed]

namespace Bridge

variable {σ V : Type} {channel : Option (HostChannel η)} {live loaded : Live σ} {v before : World η}

/-- Notes are noted, and hand nothing to the host. -/
theorem logAll_drive (channel : Option (HostChannel η)) (rs : List LogRecord) (live : Live σ)
    (v : World η) :
    ((logAll rs : Bridge σ V Unit).run live).drive (World.answer channel) v =
        (.ok (.ok (), live), v.noteAll rs) ∧
      handed (((logAll rs : Bridge σ V Unit).run live).trail (World.answer channel) v) = [] := by
  induction rs generalizing v with
  | nil =>
    have none : v.noteAll [] = v := congrArg (fun log => { v with log := log }) (List.append_nil _)
    rw [none]
    exact ⟨rfl, rfl⟩
  | cons r rest ih =>
    have noted : (v.note r).noteAll rest = v.noteAll (r :: rest) :=
      congrArg (fun log => { v with log := log }) (List.append_assoc _ [r] rest)
    rw [← noted]
    exact ih (v.note r)

/-- A diagnostic is one request, and a panic in it unwinds the run. -/
theorem diagnose_run (line : String) (live : Live σ) :
    (diagnose line : Bridge σ V Unit).run live = .ask (.diagnose line) fun
      | .ok () => .done (.ok (), live)
      | .error p => .done (.error (.unwound p), live) := by
  show Interaction.ask _ _ = _
  congr 1
  funext r
  cases r <;> rfl

/-- A diagnostic is handed to the host, and is all there is. -/
theorem diagnose_handed (channel : Option (HostChannel η)) (line : String) (live : Live σ)
    (v : World η) :
    handed (((diagnose line : Bridge σ V Unit).run live).trail (World.answer channel) v) =
      [.print (line ++ "\n") v.scripts.state] := by
  rw [diagnose_run]
  simp only [Interaction.trail]
  rcases World.answer channel (.diagnose line) v with ⟨e | (p | ⟨⟩), after⟩ <;> rfl

/-- A diagnostic that is taken leaves the engine as it is. -/
theorem diagnose_ends {line : String}
    (driven : ((diagnose line : Bridge σ V Unit).run live).drive (World.answer channel) v =
      (.ok (.ok (), loaded), before)) : loaded = live := by
  rw [diagnose_run] at driven
  simp only [Interaction.drive] at driven
  rcases answered : World.answer channel (.diagnose line) v with ⟨e | (p | ⟨⟩), after⟩ <;>
    rw [answered] at driven
  · cases driven
  · cases driven
  · cases driven
    rfl

end Bridge

/-! ## What the host does not see -/

/-- A world has the same host, as available as before. -/
structure World.SameHost (w after : World η) : Prop where
  host : after.host = w.host
  borrowed : after.borrowed = w.borrowed
  linkage : after.scripts.linkage = w.scripts.linkage

/-- A request that hands nothing to the host is answered whatever the host does, and leaves it
alone. -/
theorem World.answer_unseen (channel : Option (HostChannel η)) {q : HostRequest}
    (unseen : q.IsUnseen) (w : World η) :
    (∃ r v, World.answer channel q w = (.ok r, v) ∧ w.SameHost v) ∧
      q.handed w.scripts.state = none := by
  cases q with
  | command text => exact unseen.elim
  | print text => exact unseen.elim
  | diagnose line => exact unseen.elim
  | log record => exact ⟨⟨(), _, rfl, rfl, rfl, rfl⟩, rfl⟩
  | event e => exact ⟨⟨(), _, rfl, rfl, rfl, rfl⟩, rfl⟩
  | enter state => exact ⟨⟨(), _, rfl, rfl, rfl, rfl⟩, rfl⟩
  | countEngine => exact ⟨⟨_, _, rfl, rfl, rfl, rfl⟩, rfl⟩
  | readings => exact ⟨⟨_, _, rfl, rfl, rfl, rfl⟩, rfl⟩

/-- A program that asks for nothing the host could see comes to its end, hands nothing to the host,
and leaves it alone. -/
theorem Interaction.Asks.drive_unseen {α : Type} {t : Invocation.Progress α}
    (asks : t.Asks HostRequest.IsUnseen) (channel : Option (HostChannel η)) (w : World η) :
    ∃ a v, t.drive (World.answer channel) w = (.ok a, v) ∧ w.SameHost v ∧
      handed (t.trail (World.answer channel) w) = [] := by
  induction t generalizing w with
  | done a => exact ⟨a, w, rfl, ⟨rfl, rfl, rfl⟩, rfl⟩
  | ask q next ih =>
    obtain ⟨⟨r, there, answered, first⟩, nothing⟩ := World.answer_unseen channel asks.1 w
    obtain ⟨a, v, driven, later, rest⟩ := ih r (asks.2 r) there
    refine ⟨a, v, ?_, ?_, ?_⟩
    · simp only [Interaction.drive, answered, driven]
    · exact ⟨later.host.trans first.host, later.borrowed.trans first.borrowed,
        later.linkage.trans first.linkage⟩
    · have none : handed [(q, w)] = [] := by simp [handed, nothing]
      simp only [Interaction.trail, answered]
      rw [← List.singleton_append, handed_append, none, rest, List.append_nil]

/-! ## What a host has received -/

/-- A host that is linked and free has written down what a request hands to it, once that is
answered. -/
theorem Host.recorded_answer (h : Host η) (s : Setup) {q : HostRequest} {r : q.Reply}
    {u after : World (η × List Received)} (linked : u.scripts.linkage = .linked)
    (free : u.borrowed = false)
    (answered : World.answer (some (h.recorded.channel s)) q u = (.ok r, after)) :
    after.host.2 = u.host.2 ++ (q.handed u.scripts.state).toList := by
  rw [World.answer_eq_serve _ _ linked free] at answered
  have going : Halt.ofAnswer? ((h.recorded.channel s).serve q u).1 = none := by rw [answered]; rfl
  have same : after = ((h.recorded.channel s).serve q u).2 := by rw [answered]
  rw [same]
  cases q with
  | command text =>
    exact h.recorded_command s text ((Outcome.halt?_toAccess _).symm.trans going)
  | print text =>
    exact h.recorded_print s text ((Outcome.halt?_toAccess _).symm.trans going)
  | diagnose line =>
    exact h.recorded_print s (line ++ "\n") ((Outcome.halt?_toDiagnosis _).symm.trans going)
  | log record => exact (List.append_nil _).symm
  | event e => exact (List.append_nil _).symm
  | enter state => exact (List.append_nil _).symm
  | countEngine => exact (List.append_nil _).symm
  | readings => exact (List.append_nil _).symm

/-- A host that goes no further while it serves has written nothing down. -/
theorem Host.recorded_halt (h : Host η) (s : Setup) {q : HostRequest} {e : Halt}
    {u after : World (η × List Received)}
    (answered : World.answer (some (h.recorded.channel s)) q u = (.error e, after)) :
    after.host = u.host := by
  have kept : Halt.ofAnswer? (World.answer (some (h.recorded.channel s)) q u).1 ≠ none →
      (World.answer (some (h.recorded.channel s)) q u).2.host = u.host := by
    refine World.answer_rule (T := fun halt v => halt ≠ none → v.host = u.host) _ q u ?_ ?_ ?_
    · rintro p ⟨⟩ _ _ text
      exact fun halts => Host.perform_host_of_halt halts
    · rintro p ⟨⟩ _ _ text
      exact fun halts => Host.perform_host_of_halt halts
    · exact fun _ same _ _ _ => same
  rw [answered] at kept
  exact kept (by simp [Halt.ofAnswer?])

/-- What the host has written down after a drive is what the requests of the drive handed to it, all
of it unless the drive was given up. -/
theorem Host.recorded_drive (h : Host η) (s : Setup) {α : Type} (t : Invocation.Progress α)
    {u : World (η × List Received)} (linked : u.scripts.linkage = .linked)
    (free : u.borrowed = false) :
    let answer := World.answer (some (h.recorded.channel s))
    ∃ written, (t.drive answer u).2.host.2 = u.host.2 ++ written ∧
      written <+: handed (t.trail answer u) ∧
      (Halt.ofAnswer? (t.drive answer u).1 = none → written = handed (t.trail answer u)) := by
  intro answer
  -- over the program; the host stays linked and free from one request to the next
  induction t generalizing u with
  | done b => exact ⟨[], (List.append_nil _).symm, List.prefix_refl _, fun _ => rfl⟩
  | ask q next ih =>
    rcases answered : answer q u with ⟨e | r, between⟩
    · simp only [Interaction.drive, answered]
      have host := h.recorded_halt s answered
      refine ⟨[], by rw [host, List.append_nil], List.nil_prefix, ?_⟩
      intro going
      cases going
    · have orderly := h.recorded.some_channel_orderly s
      have linkedStill : between.scripts.linkage = .linked := by
        have kept := World.answer_linkage orderly q linked
        rwa [show World.answer _ q u = _ from answered] at kept
      have freeStill : between.borrowed = false :=
        (World.answer_borrowed orderly linked answered).trans free
      have first := h.recorded_answer s linked free answered
      obtain ⟨written, host, within, all⟩ := ih r linkedStill freeStill
      have hands : handed (Interaction.trail answer (.ask q next) u) =
          (q.handed u.scripts.state).toList ++
            handed (Interaction.trail answer (next r) between) := by
        simp only [Interaction.trail, answered, handed, List.filterMap_cons]
        cases q.handed u.scripts.state <;> rfl
      refine ⟨(q.handed u.scripts.state).toList ++ written, ?_, ?_, ?_⟩
      · simp only [Interaction.drive, answered]
        rw [host, first, List.append_assoc]
      · rw [hands]
        exact (List.prefix_append_right_inj _).2 within
      · intro going
        simp only [Interaction.drive, answered] at going
        rw [hands, all going]

/-- A host that is in use is left alone, and stays in use. -/
theorem World.answer_in_use (channel : Option (HostChannel η)) (q : HostRequest) {v : World η}
    (inUse : v.borrowed = true) :
    (World.answer channel q v).2.host = v.host ∧ (World.answer channel q v).2.borrowed = true := by
  have served : v.borrowed = false → False := by simp [inUse]
  refine World.answer_rule (T := fun _ after => after.host = v.host ∧ after.borrowed = true)
    channel q v ?_ ?_ ?_
  · exact fun _ _ _ free => (served free).elim
  · exact fun _ _ _ free => (served free).elim
  · exact fun after host borrowed _ => ⟨host, borrowed.trans inUse⟩

namespace ScriptHost

variable {s : Setup} {h : Host η} {args : String} {w : World η}

/-- A run on a host that writes down what it receives asks for the same, in the same states. -/
theorem handed_recorded (s : Setup) (h : Host η) (args : String) (w : World η) :
    handed (requests s h.recorded args (unheard w)) = handed (requests s h args w) := by
  have looks : ∀ (u : World (η × List Received)) (v : World η), u.Records v →
      u.scripts.state = v.scripts.state := fun _ _ records => records.state
  have met := Interaction.trail_related (fun q _ _ => World.answer_records h s q) looks
    (Invocation.reported s args) (unheard_records w)
  have seen : ∀ {θ : Type} (asked : List (HostRequest × World θ)), handed asked =
      (asked.map (Prod.map id fun v => v.scripts.state)).filterMap fun (q, state) =>
        q.handed state := by
    intro θ asked
    rw [List.filterMap_map]
    rfl
  rw [seen, seen]
  exact congrArg _ met

/-- What a host that is free at the start of a run receives is what the run asks of it, in that
order, and all of it unless the host goes no further. -/
theorem received_of_drive (args : String) (free : w.borrowed = false)
    (unlinked : w.scripts.isLinked = false) :
    received s h args w <+: handed (requests s h args w) ∧
      (Halt.ofAnswer? ((Invocation.reported s args).drive (World.answer (some (h.channel s)))
          (w.withLinkage .linked)).1 = none →
        received s h args w = handed (requests s h args w)) := by
  have alike : ∀ q (u : World (η × List Received)) (v : World η), True → u.Records v →
      (World.answer (some (h.recorded.channel s)) q u).1 =
          (World.answer (some (h.channel s)) q v).1 ∧
        (World.answer (some (h.recorded.channel s)) q u).2.Records
          (World.answer (some (h.channel s)) q v).2 :=
    fun q _ _ _ records => World.answer_records h s q records
  obtain ⟨same, -⟩ := Interaction.drive_related alike
    (Interaction.asks_true (Invocation.reported s args)) (unheard_records w)
  obtain ⟨written, host, within, all⟩ := h.recorded_drive s (Invocation.reported s args)
    (u := (unheard w).withLinkage .linked) rfl free
  rw [← same, received, run_of_unlinked s _ args (w := unheard w) unlinked, finish_host,
    ← handed_recorded s h args w]
  unfold drive
  dsimp only
  rw [host]
  exact ⟨within, all⟩

/-- That is so unless the process goes no further. -/
theorem received_handed (free : w.borrowed = false) (unlinked : w.scripts.isLinked = false) :
    received s h args w <+: handed (requests s h args w) ∧
      ((run s (some (h.channel s)) args w).1.halt? = none →
        received s h args w = handed (requests s h args w)) := by
  obtain ⟨within, all⟩ := received_of_drive (s := s) (h := h) args free unlinked
  refine ⟨within, fun going => all ?_⟩
  rw [run_of_unlinked s _ args unlinked, finish_fst, drive] at going
  generalize Interaction.drive _ (Invocation.reported s args) _ = driven at going
  rcases driven with ⟨e | outcome, after⟩
  · cases going
  · rfl

/-- A host that is in use when a run starts receives nothing. -/
theorem received_in_use (inUse : w.borrowed = true) : received s h args w = [] := by
  cases linked : w.scripts.isLinked with
  | true =>
    rw [received, run_of_linked s _ args (w := unheard w) linked]
    rfl
  | false =>
    have kept : ∀ q v, v.host = (unheard w).host ∧ v.borrowed = true →
        (World.answer (some (h.recorded.channel s)) q v).2.host = (unheard w).host ∧
          (World.answer (some (h.recorded.channel s)) q v).2.borrowed = true := by
      rintro q v ⟨host, still⟩
      rw [← host]
      exact World.answer_in_use _ q still
    obtain ⟨host, -⟩ := Interaction.drive_invariant kept (Invocation.reported s args)
      (s := (unheard w).withLinkage .linked) ⟨rfl, inUse⟩
    rw [received, run_of_unlinked s _ args (w := unheard w) linked, finish_host]
    exact congrArg Prod.snd host

/-- A request finds the host at hand: linked, free, and answering it without a look at either. -/
structure AtHand (s : Setup) (h : Host η) (q : HostRequest) (before : World η) : Prop where
  linked : before.scripts.linkage = .linked
  free : before.borrowed = false
  served : World.answer (some (h.channel s)) q before = (h.channel s).serve q before

/-- On a host that is free at the start, the host is at hand whenever the run asks for something. -/
theorem AsksAt.atHand {q : HostRequest} {before : World η} (asks : AsksAt s h args w q before)
    (free : w.borrowed = false) : AtHand s h q before := by
  have linked := asks.linked
  obtain ⟨-, next, reached⟩ := asks
  have still : before.borrowed = (w.withLinkage .linked).borrowed :=
    World.reached_borrowed (h.some_channel_orderly s) reached rfl
  have unborrowed : before.borrowed = false := still.trans free
  exact ⟨linked, unborrowed, World.answer_eq_serve _ q linked unborrowed⟩

/-- In every run that starts on a host that is free, every request finds the host linked and free.
A native that runs a command or prints gives the host's result or passes its panic on, so that no
script is told that there is no host or that it is busy. Everything the run asks of the host, its
diagnostics included, is what the host receives. -/
theorem requests_reach_host (s : Setup) (h : Host η) (args : String) {w : World η}
    (free : w.borrowed = false) :
    (∀ q before, AsksAt s h args w q before → AtHand s h q before) ∧
      (∀ text before serve native r, AsksAt s h args w (.command text) before →
        (World.answer (some (h.channel s)) (.command text) before).1 = .ok r →
          (∃ output, s.machine.engine.granted serve native r = pure output) ∨
            ∃ p, s.machine.engine.granted serve native r = throw (.unwound p)) ∧
      (∀ text before serve native r, AsksAt s h args w (.print text) before →
        (World.answer (some (h.channel s)) (.print text) before).1 = .ok r →
          s.machine.engine.granted serve native r = pure () ∨
            ∃ p, s.machine.engine.granted serve native r = throw (.unwound p)) ∧
      (w.scripts.isLinked = false → (run s (some (h.channel s)) args w).1.halt? = none →
        received s h args w = handed (requests s h args w)) := by
  refine ⟨fun q before asks => asks.atHand free, ?_, ?_,
    fun unlinked => (received_handed free unlinked).2⟩
  · intro text before serve native r asks answered
    rw [(asks.atHand free).served] at answered
    rcases Outcome.granted_toAccess _ serve native answered with ⟨output, -, given⟩ | ⟨p, -, passed⟩
    · exact .inl ⟨output, given⟩
    · exact .inr ⟨p, passed⟩
  · intro text before serve native r asks answered
    rw [(asks.atHand free).served] at answered
    rcases Outcome.granted_toAccess _ serve native answered with ⟨output, -, given⟩ | ⟨p, -, passed⟩
    · exact .inl given
    · exact .inr ⟨p, passed⟩

/-- A package whose entry function prints an object and then throws one. Both are made texts of by
commands. -/
def convertedCommands : Setup where
  machine := jsonInterpreter.machine
    { base := .fixed "/"
      files := { members := [("require.js", .file
        ("[[\"def\",\"r2dec_main\",[[\"log\",[\"str\",[\"r2cmd\",\"a\"]]]," ++
          "[\"throw\",[\"str\",[\"r2cmd\",\"b\"]]]]]]").toUTF8.toList)] } }

/-- The command that runs while the thrown object is being reported finds the host at hand, although
the host runs the scripts again whenever it serves, and the host receives all that is asked of it.
-/
theorem requests_reach_host_converted :
    (∃ before, AsksAt convertedCommands nestingHost "" { host := 0 } (.command "b") before ∧
        before.scripts.state = .entryInvoked ∧
        AtHand convertedCommands nestingHost (.command "b") before) ∧
      received convertedCommands nestingHost "" { host := 0 } =
        [.command "a" .driverLoaded, .print (ScriptError.busy.message ++ "\n") .driverLoaded,
          .command "b" .entryInvoked,
          .print ("Error: r2dec_main: thrown value: " ++ ScriptError.busy.message ++ "\n")
            .entryInvoked] := by
  have evaluated : (HostRequest.command "b", EngineState.entryInvoked) ∈
        (requests convertedCommands nestingHost "" { host := 0 }).map
          (Prod.map id fun v => v.scripts.state) ∧
      (run convertedCommands (some (nestingHost.channel convertedCommands)) ""
        { host := 0 }).1.halt?
        = none ∧
      handed (requests convertedCommands nestingHost "" { host := 0 }) =
        [.command "a" .driverLoaded, .print (ScriptError.busy.message ++ "\n") .driverLoaded,
          .command "b" .entryInvoked,
          .print ("Error: r2dec_main: thrown value: " ++ ScriptError.busy.message ++ "\n")
            .entryInvoked] := by
    decide +kernel
  obtain ⟨asked, going, all⟩ := evaluated
  obtain ⟨⟨q, before⟩, met, same⟩ := List.mem_map.1 asked
  obtain ⟨rfl, state⟩ : q = .command "b" ∧ before.scripts.state = .entryInvoked := by
    simpa using same
  obtain ⟨found, -, -, reaches⟩ :=
    requests_reach_host convertedCommands nestingHost "" (w := { host := 0 }) rfl
  have asks : AsksAt convertedCommands nestingHost "" { host := 0 } (.command "b") before :=
    ⟨rfl, Interaction.mem_trail_iff.1 met⟩
  exact ⟨⟨before, asks, state, found _ _ asks⟩, (reaches rfl going).trans all⟩

end ScriptHost

end DecompilerBridge
