import DecompilerBridge.Plugin
import DecompilerBridge.Proofs.Interaction

/-!
# What a run leaves alone

The parts of the world that a step of a run cannot change.

* An answer to a run hands something to a host that is linked and free, or leaves the host alone
  (`World.answer_rule`). So whatever every use of the host keeps, a run keeps, and so does a line
  that is handed to the plugin (`run_keeps`, `call_keeps`).
* A run that is not refused is one drive of one program, `Invocation.reported`, and a tear-down
  (`run_of_unlinked`).
* While the scripts are linked, whatever a host asks for changes the log only: `run_of_linked` and
  `call_of_linked` give the whole answer, and `reenter_undisturbed` covers every request.
* A host that serves a request gives itself back, with the state that it ended with
  (`perform_cases`), so that every host is used in an orderly way (`Host.channel_orderly`).
-/

set_option autoImplicit false

namespace DecompilerBridge

variable {η : Type}

/-! ## What an answer can do -/

/-- How the end of a host's work looks to the native that asked for it. -/
def Outcome.toAccess {α : Type} : Outcome α → Except Halt (Access α)
  | .finished a => .ok (.granted a)
  | .panicked p => .ok (.panicked p)
  | .halted h => .error h

/-- How the end of a host's work looks to the diagnostic that it was to print. -/
def Outcome.toDiagnosis : Outcome Unit → Except Halt (Except Panic Unit)
  | .finished () => .ok (.ok ())
  | .panicked p => .ok (.error p)
  | .halted h => .error h

namespace World

/-- A native reaches the host if one is linked and free, and otherwise nothing happens. -/
theorem access_eq {α : Type} (channel : Option (HostChannel η))
    (use : HostChannel η → World η → Outcome α × World η) (w : World η) :
    w.access channel use =
      match w.scripts.linkage, channel, w.borrowed with
      | .linked, some p, false => ((use p w).1.toAccess, (use p w).2)
      | .linked, _, _ => (.ok .busy, w)
      | _, _, _ => (.ok .unlinked, w) := by
  unfold access
  cases w.scripts.linkage with
  | unlinked => rfl
  | stale => rfl
  | linked =>
    cases channel with
    | none => rfl
    | some p =>
      cases w.borrowed with
      | true => rfl
      | false =>
        dsimp only
        rcases use p w with ⟨_ | _ | _, after⟩ <;> rfl

/-- A line is printed on a host that is free, and otherwise dropped with a note. -/
theorem printLine_eq (channel : Option (HostChannel η)) (line : String) (w : World η) :
    printLine channel line w =
      match channel, w.borrowed with
      | some p, false => p.print (line ++ "\n") w
      | _, _ => (.finished (), w.note (.warn ("host busy, dropped output: " ++ line))) := by
  unfold printLine
  cases channel with
  | none => rfl
  | some p => cases w.borrowed <;> rfl

/-- A diagnostic is printed on a host that is linked and free, and otherwise dropped with a note. -/
theorem diagnose_eq (channel : Option (HostChannel η)) (line : String) (w : World η) :
    w.diagnose channel line =
      match w.scripts.linkage, channel, w.borrowed with
      | .linked, some p, false =>
        ((p.print (line ++ "\n") w).1.toDiagnosis, (p.print (line ++ "\n") w).2)
      | .linked, _, _ =>
        (.ok (.ok ()), w.note (.warn ("host busy, dropped output: " ++ line)))
      | _, _, _ => (.ok (.ok ()), w.note (.warn ("no host linked, dropped output: " ++ line))) := by
  unfold diagnose
  rw [printLine_eq]
  cases w.scripts.linkage with
  | unlinked => rfl
  | stale => rfl
  | linked =>
    cases channel with
    | none => rfl
    | some p =>
      cases w.borrowed with
      | true => rfl
      | false =>
        dsimp only
        rcases p.print (line ++ "\n") w with ⟨_ | _ | _, after⟩ <;> rfl

/-- The cases of an access: the host is used, or nothing happens. -/
theorem access_cases {α : Type} (channel : Option (HostChannel η))
    (use : HostChannel η → World η → Outcome α × World η) (w : World η) :
    (∃ p, channel = some p ∧ w.scripts.linkage = .linked ∧ w.borrowed = false ∧
        w.access channel use = ((use p w).1.toAccess, (use p w).2)) ∨
      w.access channel use = (.ok .busy, w) ∨ w.access channel use = (.ok .unlinked, w) := by
  rw [access_eq]
  split
  · next p linkage borrowed => exact .inl ⟨p, rfl, linkage, borrowed, rfl⟩
  · exact .inr (.inl rfl)
  · exact .inr (.inr rfl)

/-- The cases of a diagnostic: it is printed on the host, or noted. -/
theorem diagnose_cases (channel : Option (HostChannel η)) (line : String) (w : World η) :
    (∃ p, channel = some p ∧ w.scripts.linkage = .linked ∧ w.borrowed = false ∧
        w.diagnose channel line =
          ((p.print (line ++ "\n") w).1.toDiagnosis, (p.print (line ++ "\n") w).2)) ∨
      ∃ r, w.diagnose channel line = (.ok (.ok ()), w.note r) := by
  rw [diagnose_eq]
  split
  · next p linkage borrowed => exact .inl ⟨p, rfl, linkage, borrowed, rfl⟩
  · exact .inr ⟨_, rfl⟩
  · exact .inr ⟨_, rfl⟩

end World

/-- The halt that an outcome is, if it is one. -/
def Outcome.halt? {α : Type} : Outcome α → Option Halt
  | .halted h => some h
  | _ => none

/-- The halt that an answer is given up with, if it is. -/
def Halt.ofAnswer? {α : Type} : Except Halt α → Option Halt
  | .error h => some h
  | .ok _ => none

/-- Access to a host goes no further if the host does not. -/
@[simp] theorem Outcome.halt?_toAccess {α : Type} (outcome : Outcome α) :
    Halt.ofAnswer? outcome.toAccess = outcome.halt? := by
  cases outcome <;> rfl

/-- Nor does a diagnostic. -/
@[simp] theorem Outcome.halt?_toDiagnosis (outcome : Outcome Unit) :
    Halt.ofAnswer? outcome.toDiagnosis = outcome.halt? := by
  cases outcome <;> rfl

/-- What an answer to a run can do. It hands a command or a text to a host that is linked and free,
or it leaves the host and the link as they are. Every fact about the world after an answer, and
about whether the answer is given up, follows from these three cases. -/
theorem World.answer_rule {T : Option Halt → World η → Prop} (channel : Option (HostChannel η))
    (q : HostRequest) (w : World η)
    (command : ∀ p ∈ channel, w.scripts.linkage = .linked → w.borrowed = false → ∀ text,
      T (p.command text w).1.halt? (p.command text w).2)
    (print : ∀ p ∈ channel, w.scripts.linkage = .linked → w.borrowed = false → ∀ text,
      T (p.print text w).1.halt? (p.print text w).2)
    (silent : ∀ after : World η, after.host = w.host → after.borrowed = w.borrowed →
      after.scripts.linkage = w.scripts.linkage → T none after) :
    T (Halt.ofAnswer? (World.answer channel q w).1) (World.answer channel q w).2 := by
  cases q with
  | command text =>
    show T (Halt.ofAnswer? (w.access channel fun p => p.command text).1)
      (w.access channel fun p => p.command text).2
    rcases World.access_cases channel (fun p => p.command text) w with
      ⟨p, hp, linked, free, used⟩ | refused | refused
    · rw [used, Outcome.halt?_toAccess]
      exact command p hp linked free text
    · rw [refused]
      exact silent w rfl rfl rfl
    · rw [refused]
      exact silent w rfl rfl rfl
  | print text =>
    show T (Halt.ofAnswer? (w.access channel fun p => p.print text).1)
      (w.access channel fun p => p.print text).2
    rcases World.access_cases channel (fun p => p.print text) w with
      ⟨p, hp, linked, free, used⟩ | refused | refused
    · rw [used, Outcome.halt?_toAccess]
      exact print p hp linked free text
    · rw [refused]
      exact silent w rfl rfl rfl
    · rw [refused]
      exact silent w rfl rfl rfl
  | diagnose line =>
    show T (Halt.ofAnswer? (w.diagnose channel line).1) (w.diagnose channel line).2
    rcases World.diagnose_cases channel line w with ⟨p, hp, linked, free, printed⟩ | ⟨r, dropped⟩
    · rw [printed, Outcome.halt?_toDiagnosis]
      exact print p hp linked free _
    · rw [dropped]
      exact silent _ rfl rfl rfl
  | log record => exact silent _ rfl rfl rfl
  | event e => exact silent _ rfl rfl rfl
  | enter state => exact silent _ rfl rfl rfl
  | countEngine => exact silent _ rfl rfl rfl
  | readings => exact silent _ rfl rfl rfl

/-! ## Facts about the host that every use of it keeps -/

/-- Every use of the host through a channel keeps a fact about its state and its availability. -/
structure HostChannel.Keeps (p : HostChannel η) (P : η → Bool → Prop) : Prop where
  command : ∀ text (w : World η), P w.host w.borrowed →
    P (p.command text w).2.host (p.command text w).2.borrowed
  print : ∀ text (w : World η), P w.host w.borrowed →
    P (p.print text w).2.host (p.print text w).2.borrowed

/-- Printing a line keeps what every use of the host keeps. -/
theorem World.printLine_keeps {P : η → Bool → Prop} {channel : Option (HostChannel η)}
    (keeps : ∀ p ∈ channel, p.Keeps P) (line : String) {w : World η} (hw : P w.host w.borrowed) :
    P (World.printLine channel line w).2.host (World.printLine channel line w).2.borrowed := by
  rw [World.printLine_eq]
  split
  · next p _ => exact (keeps p rfl).print _ w hw
  · exact hw

/-- Every answer to a run keeps what every use of the host keeps. -/
theorem World.answer_keeps {P : η → Bool → Prop} {channel : Option (HostChannel η)}
    (keeps : ∀ p ∈ channel, p.Keeps P) (q : HostRequest) {w : World η} (hw : P w.host w.borrowed) :
    P (World.answer channel q w).2.host (World.answer channel q w).2.borrowed := by
  refine World.answer_rule (T := fun _ after => P after.host after.borrowed) channel q w ?_ ?_ ?_
  · intro p hp _ _ text
    exact (keeps p hp).command text w hw
  · intro p hp _ _ text
    exact (keeps p hp).print text w hw
  · intro after host borrowed _
    rw [host, borrowed]
    exact hw

/-! ## A run as one drive -/

/-- What follows the outcome of an invocation: the report of a panic. -/
def Invocation.reportPanic (s : Setup) :
    Outcome (Except ScriptError Unit) → Invocation.Progress (Outcome (Except ScriptError Unit))
  | .panicked p => Invocation.fatal s.policy p.message
  | ended => .done ended

/-- An invocation together with the report of a panic that comes out of it, as one program. -/
def Invocation.reported (s : Setup) (args : String) :
    Invocation.Progress (Outcome (Except ScriptError Unit)) :=
  (Invocation.invoke s args).bind (Invocation.reportPanic s)

namespace ScriptHost

/-- What is noted when a run inside a run is refused. -/
def rejection : LogRecord := .warn "rejecting re-entrant script invocation"

/-- What remains of a run after its work: the tear-down, unless the process goes no further. -/
def finish :
    Outcome (Except ScriptError Unit) × World η → Outcome (Except ScriptError Unit) × World η
  | (.halted h, after) => (.halted h, after)
  | (outcome, after) => (outcome, tearDown after)

/-- The rest of a run does not change how its work ended. -/
@[simp] theorem finish_fst (ended : Outcome (Except ScriptError Unit) × World η) :
    (finish ended).1 = ended.1 := by
  rcases ended with ⟨_ | _ | _, after⟩ <;> rfl

/-- The rest of a run leaves the host alone. -/
@[simp] theorem finish_host (ended : Outcome (Except ScriptError Unit) × World η) :
    (finish ended).2.host = ended.2.host := by
  rcases ended with ⟨_ | _ | _, after⟩ <;> rfl

/-- The rest of a run leaves the availability of the host alone. -/
@[simp] theorem finish_borrowed (ended : Outcome (Except ScriptError Unit) × World η) :
    (finish ended).2.borrowed = ended.2.borrowed := by
  rcases ended with ⟨_ | _ | _, after⟩ <;> rfl

/-- The rest of a run that has not halted is its tear-down. -/
theorem finish_snd {ended : Outcome (Except ScriptError Unit) × World η}
    (going : ended.1.halt? = none) : (finish ended).2 = tearDown ended.2 := by
  rcases ended with ⟨_ | _ | h, after⟩
  · rfl
  · rfl
  · cases going

/-- Containing a panic is driving the invocation and its report as one program. -/
theorem contained_eq_drive (s : Setup) (channel : Option (HostChannel η)) (args : String)
    (w : World η) :
    contained s channel args w = drive channel (Invocation.reported s args) w := by
  simp only [contained, drive, Invocation.reported, Interaction.drive_bind]
  generalize Interaction.drive _ (Invocation.invoke s args) w = driven
  rcases driven with ⟨h | outcome, after⟩
  · rfl
  · cases outcome <;> rfl

/-- A run inside a run is refused, whoever asks for it, and changes nothing but the log. -/
theorem run_of_linked (s : Setup) (channel : Option (HostChannel η)) (args : String) {w : World η}
    (linked : w.scripts.isLinked = true) :
    run s channel args w = (.finished (.error .busy), w.note rejection) := by
  simp only [run, linked, if_true]
  rfl

/-- A run that is not refused links the host, drives the invocation, and tears down. -/
theorem run_of_unlinked (s : Setup) (channel : Option (HostChannel η)) (args : String)
    {w : World η} (unlinked : w.scripts.isLinked = false) :
    run s channel args w =
      finish (drive channel (Invocation.reported s args) (w.withLinkage .linked)) := by
  simp only [run, unlinked, Bool.false_eq_true, if_false, contained_eq_drive]
  rcases drive channel (Invocation.reported s args) (w.withLinkage .linked) with
    ⟨_ | _ | _, after⟩ <;> rfl

/-- What a run that is not refused gives, unless it halts, is what its work gives. -/
theorem drive_of_run {s : Setup} {channel : Option (HostChannel η)} {args : String} {w : World η}
    {outcome : Outcome (Except ScriptError Unit)} (gives : (run s channel args w).1 = outcome)
    (tried : outcome ≠ .finished (.error .busy)) (going : outcome.halt? = none) :
    w.scripts.isLinked = false ∧ ∃ after,
      (Invocation.reported s args).drive (World.answer channel) (w.withLinkage .linked) =
        (.ok outcome, after) := by
  cases linked : w.scripts.isLinked with
  | true =>
    rw [run_of_linked s channel args linked] at gives
    exact absurd gives.symm tried
  | false =>
    rw [run_of_unlinked s channel args linked, finish_fst, drive] at gives
    rcases driven : (Invocation.reported s args).drive (World.answer channel)
        (w.withLinkage .linked) with ⟨halt | ended, after⟩ <;> rw [driven] at gives
    · rw [← gives] at going
      cases going
    · obtain rfl : ended = outcome := gives
      exact ⟨rfl, after, driven⟩

/-- A run keeps what every use of the host keeps. -/
theorem run_keeps {P : η → Bool → Prop} {channel : Option (HostChannel η)}
    (keeps : ∀ p ∈ channel, p.Keeps P) (s : Setup) (args : String) {w : World η}
    (hw : P w.host w.borrowed) :
    P (run s channel args w).2.host (run s channel args w).2.borrowed := by
  cases linked : w.scripts.isLinked with
  | true =>
    rw [run_of_linked s channel args linked]
    exact hw
  | false =>
    rw [run_of_unlinked s channel args linked, finish_host, finish_borrowed]
    exact Interaction.drive_invariant
      (fun q v => World.answer_keeps (w := v) keeps q) (Invocation.reported s args)
      (show P (w.withLinkage .linked).host (w.withLinkage .linked).borrowed from hw)

end ScriptHost

/-! ## Lines that are handed to the plugin -/

namespace Plugin

/-- Turning the end of some work into an answer leaves the world alone. -/
@[simp] theorem answerWith_snd {α β : Type} (a : β) (ended : Outcome α × World η) :
    (answerWith a ended).2 = ended.2 := by
  rcases ended with ⟨_ | _ | _, after⟩ <;> rfl

/-- A host that is free is reached through the channel that was given. -/
theorem freeChannel_mem {channel : Option (HostChannel η)} {w : World η} {p : HostChannel η}
    (h : p ∈ freeChannel channel w) : p ∈ channel := by
  unfold freeChannel at h
  split at h
  · cases h
  · exact h

/-- Carrying out a command keeps what every use of the host keeps. -/
theorem dispatch_keeps {P : η → Bool → Prop} {channel : Option (HostChannel η)}
    (keeps : ∀ p ∈ channel, p.Keeps P) (s : Setup) (c : Command) {w : World η}
    (hw : P w.host w.borrowed) :
    P (dispatch s channel c w).2.host (dispatch s channel c w).2.borrowed := by
  have free : ∀ p, freeChannel channel w = some p → p.Keeps P :=
    fun p hp => keeps p (freeChannel_mem hp)
  have decompiled : ∀ args,
      P (decompile s channel args w).2.host (decompile s channel args w).2.borrowed := by
    intro args
    have kept := ScriptHost.run_keeps keeps s args hw
    unfold decompile
    rcases ended : ScriptHost.run s channel args w with ⟨(_ | _) | _ | _, after⟩ <;>
      simp only [ended] at kept ⊢ <;> exact kept
  cases c with
  | upgrade =>
    simp only [dispatch, upgrade]
    cases available : freeChannel channel w with
    | none => exact hw
    | some p =>
      have served := (free p available).command Command.upgradeLine w hw
      rcases ended : p.command Command.upgradeLine w with ⟨output | _ | _, after⟩ <;>
        simp only [ended] at served ⊢
      · exact (free p available).print output after served
      · exact served
      · exact served
  | help =>
    simp only [dispatch, help]
    cases available : freeChannel channel w with
    | none => exact hw
    | some p => exact (free p available).print Command.usage w hw
  | decompile args => exact decompiled _
  | withAssembly => exact decompiled _
  | blocksOnly => exact decompiled _
  | issueReport => exact decompiled _

/-- Handling a line keeps what every use of the host keeps. -/
theorem call_keeps {P : η → Bool → Prop} {channel : Option (HostChannel η)}
    (keeps : ∀ p ∈ channel, p.Keeps P) (s : Setup) (line : String) {w : World η}
    (hw : P w.host w.borrowed) :
    P (call s channel line w).2.host (call s channel line w).2.borrowed := by
  unfold call
  split
  · rw [answerWith_snd]
    exact World.printLine_keeps keeps name hw
  · cases Text.stripLead Command.lead line with
    | none => exact hw
    | some rest =>
      rw [answerWith_snd]
      exact dispatch_keeps keeps s (.ofRest rest) (w := w.note (Command.routeRecord rest)) hw

/-- Whether a line is the plugin's own. -/
def owns (line : String) : Bool := !isProbe line && (Text.stripLead Command.lead line).isSome

/-- What is noted when a command is given during a run, by a host that is in use. -/
def refusalRecords : Command → List LogRecord
  | .upgrade => [.warn ("host busy, cannot run " ++ Command.upgradeLine)]
  | .help => [.warn "host busy, dropped usage text"]
  | _ => [ScriptHost.rejection, .warn (Command.lead ++ ": " ++ ScriptError.busy.message)]

/-- What is noted when a line is handed over during a run, by a host that is in use. -/
def nestedRecords (line : String) : List LogRecord :=
  if isProbe line then [.warn ("host busy, dropped output: " ++ name)]
  else
    match Text.stripLead Command.lead line with
    | none => []
    | some rest => Command.routeRecord rest :: refusalRecords (.ofRest rest)

/-- During a run, a host that is in use gets no command carried out. -/
theorem dispatch_of_linked (s : Setup) (c : Command) {w : World η}
    (linked : w.scripts.isLinked = true) :
    dispatch s none c w = (.finished (), w.noteAll (refusalRecords c)) := by
  have refused : ∀ args, decompile s none args w = (.finished (), w.noteAll
      [ScriptHost.rejection, .warn (Command.lead ++ ": " ++ ScriptError.busy.message)]) := by
    intro args
    simp only [decompile, ScriptHost.run_of_linked s none args linked]
    simp [World.note, World.noteAll]
  cases c with
  | upgrade => simp [dispatch, upgrade, freeChannel, refusalRecords, World.note, World.noteAll]
  | help => simp [dispatch, help, freeChannel, refusalRecords, World.note, World.noteAll]
  | decompile args => exact refused _
  | withAssembly => exact refused _
  | blocksOnly => exact refused _
  | issueReport => exact refused _

/-- During a run, a host that is in use learns whether a line is the plugin's own, and nothing
happens but notes. -/
theorem call_of_linked (s : Setup) (line : String) {w : World η}
    (linked : w.scripts.isLinked = true) :
    call s none line w = (.finished (owns line), w.noteAll (nestedRecords line)) := by
  unfold call owns nestedRecords
  cases probe : isProbe line with
  | true => simp [answerWith, World.printLine, World.note, World.noteAll]
  | false =>
    cases stripped : Text.stripLead Command.lead line with
    | none => simp [World.noteAll]
    | some rest =>
      have linkedNoted : (w.note (Command.routeRecord rest)).scripts.isLinked = true := linked
      simp only [Bool.false_eq_true, if_false, dispatch_of_linked s (.ofRest rest) linkedNoted]
      simp [answerWith, World.note, World.noteAll]

end Plugin

/-! ## Hosts that serve a request -/

/-- A world that was at most noted in has its scripts and its host as before. -/
structure World.Undisturbed (w after : World η) : Prop where
  scripts : after.scripts = w.scripts
  host : after.host = w.host
  borrowed : after.borrowed = w.borrowed

namespace Host

/-- Answering a host leaves the world alone. -/
@[simp] theorem reply_snd {α : Type} (ended : Outcome α × World η) : (reply ended).2 = ended.2 := by
  rcases ended with ⟨_ | _ | _, after⟩ <;> rfl

/-- Whatever a host asks for while it is in use, its state and its availability stay. -/
theorem reenter_frame (s : Setup) (q : Reentry) (w : World η) :
    (reenter s q w).2.host = w.host ∧ (reenter s q w).2.borrowed = w.borrowed := by
  have nobody : ∀ p ∈ (none : Option (HostChannel η)),
      p.Keeps fun host borrowed => host = w.host ∧ borrowed = w.borrowed := by
    intro p hp
    cases hp
  cases q with
  | run args =>
    simp only [reenter, reply_snd]
    exact ScriptHost.run_keeps nobody s args ⟨rfl, rfl⟩
  | call line =>
    simp only [reenter, reply_snd]
    exact Plugin.call_keeps nobody s line ⟨rfl, rfl⟩
  | other args =>
    simp only [reenter, reply_snd, runOther]
    exact ScriptHost.run_keeps nobody s args (w := { w with scripts := {} }) ⟨rfl, rfl⟩
  | note record => exact ⟨rfl, rfl⟩

/-- During a run, whatever a host asks for while it is in use changes nothing but the log. -/
theorem reenter_undisturbed (s : Setup) (q : Reentry) {w : World η}
    (linked : w.scripts.isLinked = true) : w.Undisturbed (reenter s q w).2 := by
  obtain ⟨host, borrowed⟩ := reenter_frame s q w
  refine ⟨?_, host, borrowed⟩
  cases q with
  | run args => rw [reenter, reply_snd, ScriptHost.run_of_linked s none args linked]; rfl
  | call line => rw [reenter, reply_snd, Plugin.call_of_linked s line linked]; rfl
  | other args => rw [reenter, reply_snd]; rfl
  | note record => rfl

/-- During a run, the scripts are the same at every point of what a host does. -/
theorem reached_scripts {α : Type} {s : Setup} {t t' : HostAction η α} {w v : World η}
    (reached : Interaction.Reaches (reenter s) t w t' v) (linked : w.scripts.isLinked = true) :
    v.scripts = w.scripts := by
  refine reached.invariant (I := fun v : World η => v.scripts = w.scripts) ?_ rfl
  intro q u r after same answered
  have kept := (reenter_undisturbed s q (w := u) (by rw [same, linked])).scripts
  rw [answered] at kept
  exact kept.trans same

section Performing

variable {α : Type} {s : Setup} {w : World η}

/-- The world in which a host has served a request from `w`, and ended with a state. -/
def returned (after : World η) (state : η) : World η :=
  { after with borrowed := false, host := state }

/-- A host that serves a request gets through its action, or the process goes no further. -/
theorem perform_cases (s : Setup) (action : HostAction η α) (w : World η) :
    (∃ a state after, Interaction.drive (reenter s) action { w with borrowed := true } =
        (.ok (.ok a, state), after) ∧
      perform s action w = (.finished a, returned after state)) ∨
    (∃ p state after, Interaction.drive (reenter s) action { w with borrowed := true } =
        (.ok (.error p, state), after) ∧
      perform s action w = (.panicked p, returned after state)) ∨
    ∃ h after, Interaction.drive (reenter s) action { w with borrowed := true } =
        (.error h, after) ∧ perform s action w = (.halted h, after) := by
  unfold perform
  rcases driven : Interaction.drive (reenter s) action { w with borrowed := true } with
    ⟨h | ⟨p | a, state⟩, after⟩
  · exact .inr (.inr ⟨h, after, driven, by rw [driven]⟩)
  · exact .inr (.inl ⟨p, state, after, driven, by rw [driven]; rfl⟩)
  · exact .inl ⟨a, state, after, driven, by rw [driven]; rfl⟩

/-- A host that goes no further while it serves a request has the state that it had before. -/
theorem perform_host_of_halt {action : HostAction η α}
    (halts : (perform s action w).1.halt? ≠ none) :
    (perform s action w).2.host = w.host := by
  rcases perform_cases s action w with
    ⟨a, state, after, -, performed⟩ | ⟨p, state, after, -, performed⟩ |
      ⟨h, after, driven, performed⟩ <;> rw [performed] at halts ⊢
  · exact absurd rfl halts
  · exact absurd rfl halts
  · have kept := Interaction.drive_invariant (I := fun v : World η => v.host = w.host)
      (fun q v hv => (reenter_frame s q v).1.trans hv) action
      (show ({ w with borrowed := true } : World η).host = w.host from rfl)
    rwa [driven] at kept

/-- The end of a host's work has what every end of its action has. -/
theorem perform_ends {Q : η → Prop} {action : HostAction η α}
    (ends : action.Ends fun ended => Q ended.2) (going : (perform s action w).1.halt? = none) :
    Q (perform s action w).2.host := by
  rcases perform_cases s action w with
    ⟨a, state, after, driven, performed⟩ | ⟨p, state, after, driven, performed⟩ |
      ⟨h, after, -, performed⟩ <;> rw [performed] at going ⊢
  · exact ends.of_drive driven
  · exact ends.of_drive driven
  · cases going

/-- A fact about the state of a host that every end of its action has stays true. -/
theorem perform_keeps {I : η → Prop} {action : HostAction η α}
    (ends : action.Ends fun ended => I ended.2) (hw : I w.host) :
    I (perform s action w).2.host := by
  by_cases going : (perform s action w).1.halt? = none
  · exact perform_ends ends going
  · rw [perform_host_of_halt going]
    exact hw

/-- During a run, serving a request leaves the scripts as they are. -/
theorem perform_scripts (action : HostAction η α) (linked : w.scripts.isLinked = true) :
    (perform s action w).2.scripts = w.scripts := by
  have kept := Interaction.drive_invariant
    (I := fun v : World η => v.scripts = w.scripts)
    (fun q v hv => (reenter_undisturbed s q (by rw [hv]; exact linked)).scripts.trans hv) action
    (show ({ w with borrowed := true } : World η).scripts = w.scripts from rfl)
  rcases perform_cases s action w with
    ⟨a, state, after, driven, performed⟩ | ⟨p, state, after, driven, performed⟩ |
      ⟨h, after, driven, performed⟩ <;> rw [driven] at kept <;> rw [performed] <;> exact kept

/-- A host is free again once it has served a request, also if it panicked. -/
theorem perform_borrowed (action : HostAction η α) (going : (perform s action w).1.halt? = none) :
    (perform s action w).2.borrowed = false := by
  rcases perform_cases s action w with
    ⟨a, state, after, -, performed⟩ | ⟨p, state, after, -, performed⟩ | ⟨h, after, -, performed⟩ <;>
      rw [performed] at going ⊢
  · rfl
  · rfl
  · cases going

end Performing

end Host

/-! ## The link and the host during a run -/

/-- The link of a run in progress is set. -/
theorem ScriptStatus.isLinked_of_linked {status : ScriptStatus}
    (linked : status.linkage = .linked) : status.isLinked = true := by
  simp [ScriptStatus.isLinked, linked]

/-- A use of the host during a run leaves the scripts as they are and gives the host back. -/
def World.Orderly {α : Type} (use : World η → Outcome α × World η) : Prop :=
  ∀ w : World η, w.scripts.linkage = .linked →
    (use w).2.scripts = w.scripts ∧ ((use w).1.halt? = none → (use w).2.borrowed = false)

/-- Every use of the host through a channel is orderly. -/
structure HostChannel.Orderly (p : HostChannel η) : Prop where
  command : ∀ text, World.Orderly (p.command text)
  print : ∀ text, World.Orderly (p.print text)

/-- A host is used in an orderly way, whatever it does and whatever it calls. -/
theorem Host.channel_orderly (h : Host η) (s : Setup) : (h.channel s).Orderly where
  command _ _ linked :=
    ⟨perform_scripts _ (ScriptStatus.isLinked_of_linked linked), perform_borrowed _⟩
  print _ _ linked :=
    ⟨perform_scripts _ (ScriptStatus.isLinked_of_linked linked), perform_borrowed _⟩

/-- The same of a host that is at hand. -/
theorem Host.some_channel_orderly (h : Host η) (s : Setup) :
    ∀ p ∈ some (h.channel s), p.Orderly := by
  rintro p ⟨⟩
  exact h.channel_orderly s

namespace World

variable {channel : Option (HostChannel η)}

/-- No answer during a run takes the link away. -/
theorem answer_linkage (orderly : ∀ p ∈ channel, p.Orderly) (q : HostRequest) {w : World η}
    (linked : w.scripts.linkage = .linked) :
    (answer channel q w).2.scripts.linkage = .linked := by
  refine answer_rule (T := fun _ after => after.scripts.linkage = .linked) channel q w ?_ ?_ ?_
  · intro p hp _ _ text
    rw [((orderly p hp).command text w linked).1, linked]
  · intro p hp _ _ text
    rw [((orderly p hp).print text w linked).1, linked]
  · intro after _ _ same
    rw [same, linked]

/-- After every answer during a run the host is as free as before. -/
theorem answer_borrowed (orderly : ∀ p ∈ channel, p.Orderly) {q : HostRequest} {w after : World η}
    {r : q.Reply} (linked : w.scripts.linkage = .linked)
    (answered : answer channel q w = (.ok r, after)) : after.borrowed = w.borrowed := by
  have freed : Halt.ofAnswer? (answer channel q w).1 = none →
      (answer channel q w).2.borrowed = w.borrowed := by
    refine answer_rule (T := fun halt v => halt = none → v.borrowed = w.borrowed)
      channel q w ?_ ?_ ?_
    · intro p hp _ free text going
      rw [((orderly p hp).command text w linked).2 going, free]
    · intro p hp _ free text going
      rw [((orderly p hp).print text w linked).2 going, free]
    · intro after _ same _ _
      exact same
  rw [answered] at freed
  exact freed rfl

/-- At every point of a run the link is set. -/
theorem reached_linked {α : Type} (orderly : ∀ p ∈ channel, p.Orderly)
    {t t' : Invocation.Progress α} {w v : World η}
    (reached : Interaction.Reaches (answer channel) t w t' v)
    (linked : w.scripts.linkage = .linked) : v.scripts.linkage = .linked := by
  refine reached.invariant (I := fun v : World η => v.scripts.linkage = .linked) ?_ linked
  intro q u r after stillLinked answered
  have kept := answer_linkage orderly q stillLinked
  rwa [answered] at kept

/-- At every point of a run, between its requests, the host is as free as at the start. -/
theorem reached_borrowed {α : Type} (orderly : ∀ p ∈ channel, p.Orderly)
    {t t' : Invocation.Progress α} {w v : World η}
    (reached : Interaction.Reaches (answer channel) t w t' v)
    (linked : w.scripts.linkage = .linked) : v.borrowed = w.borrowed := by
  induction reached with
  | refl => rfl
  | @step q next u r after t v answered rest ih =>
    have stillLinked := answer_linkage orderly q linked
    rw [answered] at stillLinked
    exact (ih stillLinked).trans (answer_borrowed orderly linked answered)

end World

end DecompilerBridge
