import DecompilerBridge.Proofs.Run.Invocation
import DecompilerBridge.Script.Interpreter

/-!
# Every run tears down what it set up

A run that is not refused ends with the scripts idle and unlinked and with the host as free as it
was, whatever the engine, the scripts and the host did: there may be no engine at all, the natives
may be refused, the scripts may fail at any point, the host may panic in any request, and it may
call the scripts again from inside a request. The only panic that leaves a run is one that the host
raises while the report of an earlier fault is printed.

The invariant is that of a run in progress: the link is set and the host is as free as at the start.
Every answer keeps it, hence every point of a run has it (`World.reached_linked`,
`World.reached_borrowed`). That a run under containment never ends the process is carried through
the host's own calls: a host can start runs of its own, and these are contained too
(`Host.channel_haltsSilently`).
-/

set_option autoImplicit false

namespace DecompilerBridge

variable {η : Type}

/-! ## The panic that leaves a run -/

namespace ScriptHost

/-- A panic comes out of the report of a fault only if the host panics while it prints the report.
-/
theorem drive_fatal_panicked {channel : Option (HostChannel η)} {message : String}
    {w after : World η} {p : Panic}
    (driven : Interaction.drive (World.answer channel) (Invocation.fatal .contain message) w =
      (.ok (.panicked p), after)) :
    ∃ host ∈ channel, ∃ before,
      host.print (Invocation.fatalLine message ++ "\n") before = (.panicked p, after) := by
  simp only [Invocation.fatal, Interaction.drive, World.answer] at driven
  rcases World.diagnose_cases channel (Invocation.fatalLine message)
      (w.note (.error (Invocation.fatalLead ++ message))) with
    ⟨host, hhost, -, -, printed⟩ | ⟨r, dropped⟩
  · refine ⟨host, hhost, w.note (.error (Invocation.fatalLead ++ message)), ?_⟩
    rw [printed] at driven
    rcases ended : host.print (Invocation.fatalLine message ++ "\n")
        (w.note (.error (Invocation.fatalLead ++ message))) with ⟨_ | q | _, v⟩ <;>
      simp only [ended, Outcome.toDiagnosis] at driven
    · cases driven
    · cases driven
      rfl
    · cases driven
  · rw [dropped] at driven
    cases driven

/-- A panic leaves an invocation only if the host panics while it prints the report of a fault. -/
theorem drive_reported_panicked {s : Setup} (contain : s.policy = .contain)
    {channel : Option (HostChannel η)} {args : String} {w after : World η} {p : Panic}
    (driven : Interaction.drive (World.answer channel) (Invocation.reported s args) w =
      (.ok (.panicked p), after)) :
    ∃ host ∈ channel, ∃ message before,
      host.print (Invocation.fatalLine message ++ "\n") before = (.panicked p, after) := by
  rw [Invocation.reported, Interaction.drive_bind] at driven
  rcases invoked : Interaction.drive (World.answer channel) (Invocation.invoke s args) w with
    ⟨h | (result | q | h), mid⟩ <;> rw [invoked] at driven
  · cases driven
  · cases driven
  · dsimp only [Invocation.reportPanic] at driven
    rw [contain] at driven
    obtain ⟨host, hhost, before, printed⟩ := drive_fatal_panicked driven
    exact ⟨host, hhost, q.message, before, printed⟩
  · cases driven

/-- No panic leaves a run of a host whose printing does not panic, whatever is done about faults. -/
theorem run_ne_panicked (s : Setup) {channel : Option (HostChannel η)}
    (calm : ∀ p ∈ channel, ∀ text v panic, (p.print text v).1 ≠ .panicked panic) (args : String)
    (w : World η) (panic : Panic) : (run s channel args w).1 ≠ .panicked panic := by
  intro panicked
  obtain ⟨-, after, driven⟩ := drive_of_run panicked nofun rfl
  cases policy : s.policy with
  | contain =>
    obtain ⟨p, hp, message, before, printed⟩ := drive_reported_panicked policy driven
    exact calm p hp _ before panic (by rw [printed])
  | abort =>
    -- a process that aborts on a fault passes no panic on
    rw [Invocation.reported, Interaction.drive_bind] at driven
    rcases invoked : Interaction.drive (World.answer channel) (Invocation.invoke s args)
        (w.withLinkage .linked) with ⟨h | (result | q | h), mid⟩ <;> rw [invoked] at driven
    · cases driven
    · cases driven
    · dsimp only [Invocation.reportPanic] at driven
      rw [policy] at driven
      cases driven
    · cases driven

end ScriptHost

/-! ## Containment -/

/-- A use of the host during a run may run for ever or crash, but does not end the process. -/
structure HostChannel.HaltsSilently (p : HostChannel η) : Prop where
  command : ∀ text (w : World η), w.scripts.linkage = .linked →
    ∀ h, (p.command text w).1.halt? = some h → h.IsSilent
  print : ∀ text (w : World η), w.scripts.linkage = .linked →
    ∀ h, (p.print text w).1.halt? = some h → h.IsSilent

/-- An answer during a run may run for ever or crash, but does not end the process. -/
theorem World.answer_silent {channel : Option (HostChannel η)}
    (halts : ∀ p ∈ channel, p.HaltsSilently) {q : HostRequest} {w after : World η} {h : Halt}
    (linked : w.scripts.linkage = .linked)
    (answered : World.answer channel q w = (.error h, after)) : h.IsSilent := by
  have silent : ∀ h, Halt.ofAnswer? (World.answer channel q w).1 = some h → h.IsSilent := by
    refine World.answer_rule (T := fun halt _ => ∀ h, halt = some h → h.IsSilent)
      channel q w ?_ ?_ ?_
    · intro p hp _ _ text
      exact (halts p hp).command text w linked
    · intro p hp _ _ text
      exact (halts p hp).print text w linked
    · intro _ _ _ _ _ none_eq
      cases none_eq
  rw [answered] at silent
  exact silent h rfl

namespace ScriptHost

/-- An invocation under containment ends in a contained way, if the host does not end the process.
-/
theorem drive_isContained {s : Setup} (contain : s.policy = .contain)
    (channel : Option (HostChannel η)) (orderly : ∀ p ∈ channel, p.Orderly)
    (halts : ∀ p ∈ channel, p.HaltsSilently) (args : String) {w : World η}
    (linked : w.scripts.linkage = .linked) :
    (drive channel (Invocation.reported s args) w).1.IsContained := by
  unfold drive
  rcases driven : Interaction.drive (World.answer channel) (Invocation.reported s args) w with
    ⟨h | outcome, after⟩
  · obtain ⟨q, next, before, reached, gaveUp⟩ := Interaction.drive_eq_error_iff.1 driven
    have silent := World.answer_silent halts (World.reached_linked orderly reached linked) gaveUp
    rw [driven]
    exact .halted silent
  · rw [driven]
    exact (Invocation.reported_ends contain args).of_drive driven

/-- A run without a way to the host may run for ever or crash, but does not end the process. -/
theorem run_none_silent {s : Setup} (contain : s.policy = .contain) (args : String) {w : World η}
    {h : Halt} (halted : (run s none args w).1.halt? = some h) : h.IsSilent := by
  cases linked : w.scripts.isLinked with
  | true =>
    rw [run_of_linked s none args linked] at halted
    cases halted
  | false =>
    rw [run_of_unlinked s none args linked, finish_fst] at halted
    have contained := drive_isContained contain none nofun nofun args
      (w := w.withLinkage .linked) rfl
    generalize (drive none (Invocation.reported s args) (w.withLinkage .linked)).1 = outcome
      at halted contained
    cases contained <;> cases halted
    assumption

end ScriptHost

namespace Host

/-- Whatever a host asks for during a run may run for ever or crash, but does not end the process.
-/
theorem reenter_silent {s : Setup} (contain : s.policy = .contain) {q : Reentry} {w after : World η}
    {h : Halt} (linked : w.scripts.isLinked = true)
    (gaveUp : reenter s q w = (.error h, after)) : h.IsSilent := by
  cases q with
  | run args =>
    rw [reenter, ScriptHost.run_of_linked s none args linked] at gaveUp
    cases gaveUp
  | call line =>
    rw [reenter, Plugin.call_of_linked s line linked] at gaveUp
    cases gaveUp
  | other args =>
    have halted : (runOther s args w).1.halt? = some h := by
      rw [reenter] at gaveUp
      rcases ended : runOther s args w with ⟨_ | _ | h', v⟩ <;> rw [ended] at gaveUp <;>
        cases gaveUp
      rfl
    exact ScriptHost.run_none_silent contain args halted
  | note record => cases gaveUp

/-- A host that serves a request of a contained run may go no further, but does not end the process.
-/
theorem perform_silent {α : Type} {s : Setup} (contain : s.policy = .contain)
    {action : HostAction η α} {w : World η} {h : Halt} (linked : w.scripts.isLinked = true)
    (halted : (perform s action w).1.halt? = some h) : h.IsSilent := by
  rcases perform_cases s action w with
    ⟨a, state, after, -, performed⟩ | ⟨p, state, after, -, performed⟩ |
      ⟨h', after, driven, performed⟩ <;> rw [performed] at halted <;> cases halted
  obtain ⟨q, next, before, reached, gaveUp⟩ := Interaction.drive_eq_error_iff.1 driven
  have stillLinked : before.scripts.isLinked = true := by
    rw [reached_scripts reached linked]
    exact linked
  exact reenter_silent contain stillLinked gaveUp

/-- The way to a host of contained runs may lead no further, but does not end the process. -/
theorem channel_haltsSilently {s : Setup} (contain : s.policy = .contain) (h : Host η) :
    (h.channel s).HaltsSilently where
  command _ _ linked _ halted :=
    perform_silent contain (ScriptStatus.isLinked_of_linked linked) halted
  print _ _ linked _ halted :=
    perform_silent contain (ScriptStatus.isLinked_of_linked linked) halted

end Host

/-! ## The end of a run -/

namespace ScriptHost

/-- The states of a script host between runs: a new one has run nothing, and every run that comes to
an end leads to the next. Each run may have its own files, limits, arguments and host. -/
inductive Reached : ScriptStatus → Prop where
  | new : Reached {}
  | run {η : Type} (s : Setup) (h : Host η) (args : String) (w : World η) :
      Reached w.scripts → (run s (some (h.channel s)) args w).1.halt? = none →
        Reached (run s (some (h.channel s)) args w).2.scripts

/-- A run that is not refused and comes to an end tears down. -/
theorem run_snd {s : Setup} {channel : Option (HostChannel η)} {args : String} {w : World η}
    (unlinked : w.scripts.isLinked = false) (going : (run s channel args w).1.halt? = none) :
    (run s channel args w).2 =
      tearDown (drive channel (Invocation.reported s args) (w.withLinkage .linked)).2 := by
  rw [run_of_unlinked s channel args unlinked] at going ⊢
  rw [finish_fst] at going
  exact finish_snd going

/-- Between runs the scripts are idle and unlinked. -/
theorem Reached.idle {status : ScriptStatus} (reached : Reached status) :
    status.linkage = .unlinked ∧ status.state = .idle := by
  induction reached with
  | new => exact ⟨rfl, rfl⟩
  | run s h args w _ going ih =>
    have unlinked : w.scripts.isLinked = false := by simp [ScriptStatus.isLinked, ih.1]
    rw [run_snd unlinked going]
    exact ⟨rfl, rfl⟩

/-- What a run leaves behind: the scripts idle and unlinked, and the host as free as before. -/
structure LeavesClean (before after : World η) : Prop where
  linkage : after.scripts.linkage = .unlinked
  state : after.scripts.state = .idle
  borrowed : after.borrowed = before.borrowed

/-- A panic that leaves a run is one that the host raised while it printed the report of a fault,
and the run has torn down behind it. -/
def PanickedInReport (p : HostChannel η) (panic : Panic) (after : World η) : Prop :=
  ∃ message before unwound,
    p.print (Invocation.fatalLine message ++ "\n") before = (.panicked panic, unwound) ∧
      after = tearDown unwound

/-- How a contained run that comes to an end can end. -/
inductive EndsRun (p : HostChannel η) : Outcome (Except ScriptError Unit) → World η → Prop where
  | success (after : World η) : EndsRun p (.finished (.ok ())) after
  | evaluation (detail : String) (after : World η) :
      EndsRun p (.finished (.error (.evaluation detail))) after
  | fatal (text : String) (after : World η) : EndsRun p (.finished (.error (.fatal text))) after
  | panicked (panic : Panic) (after : World η) :
      PanickedInReport p panic after → EndsRun p (.panicked panic) after

/-- No panic leaves a run of a host that does not panic when it prints. -/
theorem EndsRun.not_panicked {p : HostChannel η} {outcome : Outcome (Except ScriptError Unit)}
    {after : World η} (ends : EndsRun p outcome after)
    (calm : ∀ text v panic, (p.print text v).1 ≠ .panicked panic) (panic : Panic) :
    outcome ≠ .panicked panic := by
  rintro rfl
  cases ends with
  | panicked _ _ inReport =>
    obtain ⟨message, before, unwound, printed, -⟩ := inReport
    exact calm _ before panic (by rw [printed])

/-- Under containment a run from a state between runs either goes no further, since it runs for ever
or its engine takes the process down, or ends in one of four ways: with success, with a failed
evaluation, with a fatal fault, or with a panic of the host out of the report of a fault. In all
four the scripts are idle and unlinked and the host is as free as before. The last way is closed to
a host whose printing does not panic, whatever its commands do. This is so for every engine,
whatever it does with its limits. -/
theorem run_tears_down {s : Setup} (contain : s.policy = .contain) (h : Host η) (args : String)
    {w : World η} (reached : Reached w.scripts) :
    (∃ halt, halt.IsSilent ∧ (run s (some (h.channel s)) args w).1 = .halted halt) ∨
      LeavesClean w (run s (some (h.channel s)) args w).2 ∧
        EndsRun (h.channel s) (run s (some (h.channel s)) args w).1
          (run s (some (h.channel s)) args w).2 ∧
        ((∀ text v panic, ((h.channel s).print text v).1 ≠ .panicked panic) →
          ∀ panic, (run s (some (h.channel s)) args w).1 ≠ .panicked panic) := by
  have unlinked : w.scripts.isLinked = false := by simp [ScriptStatus.isLinked, reached.idle.1]
  have orderly := h.some_channel_orderly s
  have halts : ∀ p ∈ some (h.channel s), p.HaltsSilently := by
    rintro p ⟨⟩
    exact h.channel_haltsSilently contain
  have contained := drive_isContained contain (some (h.channel s)) orderly halts args
    (w := w.withLinkage .linked) rfl
  rw [run_of_unlinked s _ args unlinked]
  unfold drive at contained ⊢
  rcases driven : Interaction.drive (World.answer (some (h.channel s)))
      (Invocation.reported s args) (w.withLinkage .linked) with ⟨halt | outcome, after⟩ <;>
    rw [driven] at contained ⊢
  · cases contained with
    | halted silent => exact .inl ⟨halt, silent, rfl⟩
  · have freed : after.borrowed = w.borrowed :=
      World.reached_borrowed orderly (w := w.withLinkage .linked)
        (Interaction.drive_eq_ok_iff.1 driven) rfl
    have clean : LeavesClean w (tearDown after) := ⟨rfl, rfl, freed⟩
    have closed : ∀ {ended : Outcome (Except ScriptError Unit)},
        EndsRun (h.channel s) ended (tearDown after) →
          LeavesClean w (tearDown after) ∧ EndsRun (h.channel s) ended (tearDown after) ∧
            ((∀ text v panic, ((h.channel s).print text v).1 ≠ .panicked panic) →
              ∀ panic, ended ≠ .panicked panic) :=
      fun ends => ⟨clean, ends, ends.not_panicked⟩
    cases contained with
    | success => exact .inr (closed (.success _))
    | evaluation detail => exact .inr (closed (.evaluation detail _))
    | fatal text => exact .inr (closed (.fatal text _))
    | panicked panic =>
      obtain ⟨p, hp, message, before, printed⟩ := drive_reported_panicked contain driven
      cases hp
      exact .inr (closed (.panicked panic _ ⟨message, before, after, printed, rfl⟩))
    | @halted halt silent => exact .inl ⟨halt, silent, rfl⟩

/-- A host that runs the scripts again from inside every command, and then panics. -/
def troubledHost : Host Unit where
  command _ _ _ := .ask (.run "again") fun _ => .done (.error ⟨some "gone"⟩, ())
  print _ _ _ := .done (.ok (), ())
  preferences _ := {}
  setPreferences _ _ := ()
  addCompletion _ _ := ()

/-- A package whose entry function runs one host command. -/
def oneCommand : Setup where
  machine := Script.jsonInterpreter.machine
    { base := .fixed "/"
      files := { members := [("require.js", .file
        "[[\"def\",\"r2dec_main\",[[\"do\",[\"r2cmd\",\"s\"]]]]]".toUTF8.toList)] } }

/-- The first run of such a package on such a host is torn down, and the panic stays inside. -/
theorem run_tears_down_troubled :
    oneCommand.policy = .contain ∧ Reached {} ∧
      LeavesClean { host := () }
        (run oneCommand (some (troubledHost.channel oneCommand)) "" { host := () }).2 ∧
      ∀ panic, (run oneCommand (some (troubledHost.channel oneCommand)) "" { host := () }).1 ≠
        .panicked panic := by
  have calm : ∀ text v panic,
      ((troubledHost.channel oneCommand).print text v).1 ≠ .panicked panic := by
    intro text v panic
    exact nofun
  have going : (run oneCommand (some (troubledHost.channel oneCommand)) ""
      { host := () }).1.halt? = none := by
    decide +kernel
  rcases run_tears_down rfl troubledHost "" (s := oneCommand) (w := { host := () }) .new with
    ⟨halt, -, halted⟩ | ⟨clean, -, inside⟩
  · rw [halted] at going
    cases going
  · exact ⟨rfl, .new, clean, inside calm⟩

/-- A setup whose engines do not fit into memory, so that every run is a fault without a script. -/
def crampedSetup : Setup where
  machine := Script.jsonInterpreter.machine {} { memory := some 1 }

-- The fourth way is open.
example :
    let h : Host Unit :=
      { troubledHost with print := fun _ _ _ => .done (.error ⟨some "no output"⟩, ()) }
    (run crampedSetup (some (h.channel crampedSetup)) "" { host := () }).1 =
      .panicked ⟨some "no output"⟩ := by
  rfl

end ScriptHost

end DecompilerBridge
