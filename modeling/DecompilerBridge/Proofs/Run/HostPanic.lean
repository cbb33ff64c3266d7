import DecompilerBridge.Proofs.Bridge.Panics
import DecompilerBridge.Proofs.Run.Reentrancy
import DecompilerBridge.Proofs.Script.Laws

/-!
# A panic of the host ends the run

If the host panics while it serves a command, and nothing in the engine intercepts the exception
that the panic becomes there, the run is over: it reports the panic on the host and returns it as a
fatal fault, and nothing comes in between, however many files are being evaluated one inside the
other.

The work of an engine passes panics on (`session_direct`), so its program is at its end as soon as
the host has panicked (`Direct.reaches`). It never ends with a thrown value, since everything it
runs is attempted (`session_attempted`), so the panic comes out as a panic. What remains of the run
is the report, which goes to the host as one text, and the tear-down (`run_of_panic`).
-/

set_option autoImplicit false

namespace DecompilerBridge

open Script (jsonInterpreter)

variable {η : Type}

/-! ## The drive up to a panic -/

section Driving

variable {σ V τ ε α β γ : Type} {answer : (q : HostRequest) → τ → Except ε q.Reply × τ}
  {t : LiveWork σ V α} {x : τ}

/-- Along a drive, something in the engine intercepts the exception that a panic of the host has
become. -/
def Intercepts (answer : (q : HostRequest) → τ → Except ε q.Reply × τ)
    (t : Interaction hostSignature β) (x : τ) : Prop :=
  ∃ (q : HostRequest) (next : q.Reply → Interaction hostSignature β) (before after : τ)
    (r : q.Reply) (p : Panic) (later : Unit → Interaction hostSignature β),
    Interaction.Reaches answer t x (.ask q next) before ∧ answer q before = (.ok r, after) ∧
      q.panic? r = some p ∧ next r = .ask (.event .intercepted) later

/-- What is intercepted along a program is intercepted also if more follows. -/
theorem Intercepts.bind {t : Interaction hostSignature β} (intercepts : Intercepts answer t x)
    (f : β → Interaction hostSignature γ) : Intercepts answer (t.bind f) x := by
  obtain ⟨q, next, before, after, r, p, later, reached, answered, panic, taken⟩ := intercepts
  refine ⟨q, fun r => (next r).bind f, before, after, r, p, fun u => (later u).bind f,
    reached.bind f, answered, panic, ?_⟩
  exact congrArg (fun rest => Interaction.bind rest f) taken

/-- What is intercepted after an answer is intercepted on the whole way. -/
theorem Intercepts.step {q : HostRequest} {next : q.Reply → Interaction hostSignature β}
    {r : q.Reply} {after : τ} (answered : answer q x = (.ok r, after))
    (intercepts : Intercepts answer (next r) after) : Intercepts answer (.ask q next) x := by
  obtain ⟨q', next', before, after', r', p, later, there, taken⟩ := intercepts
  exact ⟨q', next', before, after', r', p, later, .step answered there, taken⟩

/-- The same is intercepted along programs that are answered alike. -/
theorem Intercepts.related {υ : Type} {other : (q : HostRequest) → υ → Except ε q.Reply × υ}
    {R : τ → υ → Prop} {t : Interaction hostSignature β}
    (alike : ∀ q s u, R s u → (answer q s).1 = (other q u).1 ∧ R (answer q s).2 (other q u).2)
    (intercepts : Intercepts answer t x) {y : υ} (same : R x y) : Intercepts other t y := by
  obtain ⟨q, next, before, after, r, p, later, reached, answered, taken⟩ := intercepts
  obtain ⟨before', reached', there⟩ := reached.related alike same
  have answered' := (alike q before before' there).1
  rw [answered] at answered'
  exact ⟨q, next, before', (other q before').2, r, p, later, reached',
    Prod.ext answered'.symm rfl, taken⟩

/-- Whether a program tells at once that something has been intercepted. -/
def tellsInterception : Interaction hostSignature β → Bool
  | .ask (.event .intercepted) _ => true
  | _ => false

/-- Whether a panic of the host is intercepted along a drive. -/
def interceptsAny (answer : (q : HostRequest) → τ → Except ε q.Reply × τ) :
    Interaction hostSignature β → τ → Bool
  | .done _, _ => false
  | .ask q next, x =>
    match answer q x with
    | (.ok r, after) =>
      ((q.panic? r).isSome && tellsInterception (next r)) || interceptsAny answer (next r) after
    | (.error _, _) => false

/-- An interception along a drive is found by going along it. -/
theorem interceptsAny_of_intercepts {t : Interaction hostSignature β}
    (intercepts : Intercepts answer t x) : interceptsAny answer t x = true := by
  obtain ⟨q, next, before, after, r, p, later, reached, answered, panic, taken⟩ := intercepts
  generalize met : (.ask q next : Interaction hostSignature β) = there at reached
  induction reached with
  | refl =>
    subst met
    rw [interceptsAny, answered]
    simp [panic, taken, tellsInterception]
  | step answeredFirst rest ih =>
    rw [interceptsAny, answeredFirst]
    simp [ih answered met]

/-- A program that passes panics on ends with the first one, unless it is intercepted. -/
theorem PassesOn.done_of_panic {q : HostRequest} {next : q.Reply → LiveWork σ V α}
    {before after : τ} {r : q.Reply} {p : Panic} (passed : PassesOn p (next r))
    (reached : Interaction.Reaches answer t x (.ask q next) before)
    (answered : answer q before = (.ok r, after)) (panic : q.panic? r = some p)
    (kept : ¬Intercepts answer t x) : ∃ ended, next r = .done ended ∧ Carries p ended := by
  generalize rest : next r = program at passed
  cases passed with
  | ended carried => exact ⟨_, rfl, carried⟩
  | intercepted later =>
    exact absurd ⟨q, next, before, after, r, p, later, reached, answered, panic, rest⟩ kept

/-- Along a drive in which no panic is intercepted, a program goes on passing panics on, until it
ends with one. -/
theorem Direct.reaches {t' : LiveWork σ V α} {x' : τ} (direct : Direct t)
    (reached : Interaction.Reaches answer t x t' x') (kept : ¬Intercepts answer t x) :
    Direct t' ∨ ∃ p ended, t' = .done ended ∧ Carries p ended := by
  induction reached with
  | refl => exact .inl direct
  | @step q next x r after t' x' answered rest ih =>
    have passed := direct r
    cases panic : q.panic? r with
    | none =>
      rw [panic] at passed
      exact ih passed fun intercepts => kept (.step answered intercepts)
    | some p =>
      rw [panic] at passed
      obtain ⟨ended, atEnd, carried⟩ := passed.done_of_panic (.refl _ _) answered panic kept
      rw [atEnd] at rest
      cases rest
      exact .inr ⟨p, ended, rfl, carried⟩

/-- A drive in which the host panics, and no panic is intercepted, ends with that panic. -/
theorem Direct.drive_of_panic {q : HostRequest} {next : q.Reply → LiveWork σ V α}
    {before after : τ} {r : q.Reply} {p : Panic} (direct : Direct t)
    (reached : Interaction.Reaches answer t x (.ask q next) before)
    (answered : answer q before = (.ok r, after)) (panic : q.panic? r = some p)
    (kept : ¬Intercepts answer t x) :
    ∃ ended, Interaction.Reaches answer t x (.done ended) after ∧ Carries p ended := by
  rcases direct.reaches reached kept with here | ⟨_, _, ended, _⟩
  · have passed := here r
    rw [panic] at passed
    obtain ⟨ended, atEnd, carried⟩ := passed.done_of_panic reached answered panic kept
    exact ⟨ended, atEnd ▸ reached.trans (.step answered (.refl _ _)), carried⟩
  · cases ended

end Driving

/-! ## The run -/

namespace Invocation

/-- The requests that are no commands. -/
def IsNoCommand (q : HostRequest) : Prop := ∀ text, q ≠ .command text

end Invocation

namespace ScriptHost

/-- During a run, the host panics as it serves a command. -/
def PanicsAt (s : Setup) (h : Host η) (args : String) (w : World η) (text : String) (p : Panic)
    (before : World η) : Prop :=
  AsksAt s h args w (.command text) before ∧
    (World.answer (some (h.channel s)) (.command text) before).1 = .ok (.panicked p)

/-- During a run, something in the engine intercepts the exception that a panic of the host has
become: it is caught, a promise is rejected with it, or it closes an iterator or opens a `finally`.
-/
def LosesPanic (s : Setup) (h : Host η) (args : String) (w : World η) : Prop :=
  Intercepts (World.answer (some (h.channel s))) (Invocation.reported s args)
    (w.withLinkage .linked)

/-- A run in which the host panics, and no panic is intercepted: its engine ends with the panic, in
the world that the host left. -/
theorem session_of_panic {s : Setup} (law : s.machine.engine.LetsExceptionsOut) {h : Host η}
    {args text : String} {w before : World η} {p : Panic}
    (panics : PanicsAt s h args w text p before) (kept : ¬LosesPanic s h args w) :
    ∃ live : Live s.machine.engine.State, Interaction.Reaches (World.answer (some (h.channel s)))
      (Invocation.reported s args) (w.withLinkage .linked)
      (Invocation.conclusion s
        ((.error (.unwound p) : Except (Stop s.machine.engine.Value) _), live))
      (World.answer (some (h.channel s)) (.command text) before).2 := by
  obtain ⟨⟨unlinked, next, reached⟩, answered⟩ := panics
  have answered' : World.answer (some (h.channel s)) (.command text) before = (.ok (.panicked p),
      (World.answer (some (h.channel s)) (.command text) before).2) := Prod.ext answered rfl
  have logs : ∀ record, Invocation.IsNoCommand (.log record) := fun _ _ => nofun
  have diagnoses : ∀ line, Invocation.IsNoCommand (.diagnose line) := fun _ _ => nofun
  rw [LosesPanic] at kept
  rw [Invocation.reported_eq] at reached kept ⊢
  cases reached with
  | @step _ _ _ readings _ _ _ given reached =>
    have kept' := fun intercepts => kept (.step given intercepts)
    rcases Invocation.begun_cases s args readings with
      ⟨context, -, works⟩ | ⟨message, faulty⟩ | overflown
    · -- the command is one of the engine's, since what follows its work runs none
      rw [works] at reached kept'
      rcases reached.of_bind with ⟨first, there, -⟩ | ⟨ended, between, -, beyond⟩
      · have direct := Invocation.session_direct law args ⟨context, none⟩ rfl
        obtain ⟨ended, atEnd, carried⟩ := direct.drive_of_panic there answered' rfl
          fun intercepts => kept' (intercepts.bind (Invocation.conclusion s))
        have own := atEnd.ends (Invocation.session_attempted s.machine args _)
        cases carried with
        | unwound live =>
          refine ⟨live, .step given ?_⟩
          rw [works]
          exact atEnd.bind (Invocation.conclusion s)
        | thrown v parked => exact own.elim
      · exact absurd rfl
          ((beyond.asks (Invocation.conclusion_asks logs diagnoses s ended)).1 text)
    · rw [faulty] at reached
      have asks := (Invocation.fatal_asks logs diagnoses s.policy message).bind fun ended =>
        Invocation.reportPanic_asks logs diagnoses s ended
      exact absurd rfl ((reached.asks asks).1 text)
    · rw [overflown] at reached
      exact absurd rfl ((reached.asks (Invocation.fatal_asks logs diagnoses _ _)).1 text)

/-- The host is linked and free when it panics, and it is so afterwards. -/
theorem PanicsAt.available {s : Setup} {h : Host η} {args text : String} {w before : World η}
    {p : Panic} (panics : PanicsAt s h args w text p before) :
    (before.scripts.linkage = .linked ∧ before.borrowed = false) ∧
      World.answer (some (h.channel s)) (.command text) before =
        (.ok (.panicked p), ((h.channel s).command text before).2) ∧
      ((h.channel s).command text before).1 = .panicked p ∧
      ((h.channel s).command text before).2.scripts = before.scripts ∧
      ((h.channel s).command text before).2.borrowed = false := by
  obtain ⟨asks, answered⟩ := panics
  have linked := asks.linked
  have orderly := (h.channel_orderly s).command text before linked
  rcases World.access_cases (some (h.channel s)) (fun c => c.command text) before with
    ⟨c, hc, -, unborrowed, used⟩ | refused | refused
  · cases hc
    have outcome : ((h.channel s).command text before).1 = .panicked p := by
      have same : (before.access (some (h.channel s)) fun c => c.command text).1 =
        .ok (.panicked p) := answered
      rw [used] at same
      rcases ended : ((h.channel s).command text before).1 with _ | q | _ <;>
        rw [ended] at same <;> cases same
      rfl
    refine ⟨⟨linked, unborrowed⟩, ?_, outcome, orderly.1, orderly.2 (by rw [outcome]; rfl)⟩
    show before.access (some (h.channel s)) (fun c => c.command text) = _
    rw [used, outcome]
    rfl
  · rw [World.answer, refused] at answered
    cases answered
  · rw [World.answer, refused] at answered
    cases answered

/-- A host prints every text that it gets during a run: printing comes to an end, and without a
panic. -/
def Prints (s : Setup) (h : Host η) : Prop :=
  ∀ text (v : World η), v.scripts.linkage = .linked → v.borrowed = false →
    ((h.channel s).print text v).1 = .finished ()

/-- After a panic of the host, what remains of the run is the report, printed on the host, and the
tear-down. -/
theorem run_of_panic {s : Setup} (contain : s.policy = .contain)
    (law : s.machine.engine.LetsExceptionsOut) {h : Host η} (prints : Prints s h)
    {args text : String} {w before : World η} {p : Panic}
    (panics : PanicsAt s h args w text p before) (kept : ¬LosesPanic s h args w) :
    let noted := ((h.channel s).command text before).2.note
      (.error (Invocation.fatalLead ++ p.message))
    run s (some (h.channel s)) args w = (.finished (.error (.fatal p.message)),
      tearDown ((h.channel s).print (Invocation.fatalLine p.message ++ "\n") noted).2) := by
  intro noted
  obtain ⟨⟨linked, -⟩, answered, -, scripts, unborrowed⟩ := panics.available
  obtain ⟨live, reached⟩ := session_of_panic law panics kept
  have linkedStill : noted.scripts.linkage = .linked := by
    show ((h.channel s).command text before).2.scripts.linkage = .linked
    rw [scripts, linked]
  have printed := prints (Invocation.fatalLine p.message ++ "\n") noted linkedStill unborrowed
  have diagnosed : World.answer (some (h.channel s))
      (.diagnose (Invocation.fatalLine p.message)) noted = (.ok (.ok ()),
        ((h.channel s).print (Invocation.fatalLine p.message ++ "\n") noted).2) := by
    show noted.diagnose (some (h.channel s)) (Invocation.fatalLine p.message) = _
    rw [World.diagnose_eq, linkedStill, show noted.borrowed = false from unborrowed]
    simp only [printed]
    rfl
  have report : Invocation.conclusion s
      ((.error (.unwound p) : Except (Stop s.machine.engine.Value) _), live) =
        Invocation.fatal .contain p.message := by
    rw [← contain]
    rfl
  rw [answered, report] at reached
  have driven : Interaction.drive (World.answer (some (h.channel s))) (Invocation.reported s args)
      (w.withLinkage .linked) = (.ok (.finished (.error (.fatal p.message))),
        ((h.channel s).print (Invocation.fatalLine p.message ++ "\n") noted).2) :=
    Interaction.drive_eq_ok_iff.2 (reached.trans (.step rfl (.step diagnosed (.refl _ _))))
  rw [run_of_unlinked s _ args panics.1.1, drive, driven]
  rfl

end ScriptHost

/-! ## What the host receives -/

/-- A host that writes down what it receives has written a command down once it has served it. -/
theorem Host.recorded_command (h : Host η) (s : Setup) (text : String)
    {u : World (η × List Received)}
    (going : ((h.recorded.channel s).command text u).1.halt? = none) :
    ((h.recorded.channel s).command text u).2.host.2 =
      u.host.2 ++ [.command text u.scripts.state] := by
  refine perform_ends (Q := fun x => x.2 = u.host.2 ++ [.command text u.scripts.state]) ?_ going
  exact (Interaction.ends_true _).bind fun _ _ => rfl

/-- So it has of a text. -/
theorem Host.recorded_print (h : Host η) (s : Setup) (text : String)
    {u : World (η × List Received)}
    (going : ((h.recorded.channel s).print text u).1.halt? = none) :
    ((h.recorded.channel s).print text u).2.host.2 =
      u.host.2 ++ [.print text u.scripts.state] := by
  refine perform_ends (Q := fun x => x.2 = u.host.2 ++ [.print text u.scripts.state]) ?_ going
  exact (Interaction.ends_true _).bind fun _ _ => rfl

/-- A world whose host writes down what it receives, and the same world with the host alone. -/
abbrev World.Records (u : World (η × List Received)) (v : World η) : Prop :=
  u.Alike (fun x y => x.1 = y) Eq 0 v

/-- Logs that are equal stay so. -/
theorem LogRelation.eq : LogRelation Eq 0 := ⟨fun _ same => same ▸ rfl, fun _ same => same ▸ rfl⟩

/-- A host that writes down what it receives is used as it was before. -/
theorem Host.recorded_agree (h : Host η) (s : Setup) :
    (h.recorded.channel s).Agree (fun x y => x.1 = y) Eq 0 (h.channel s) :=
  (h.recorded_mirrors fun _ => False).agree .eq nofun s

/-- Every answer is the same if the host writes down what it receives. -/
theorem World.answer_records (h : Host η) (s : Setup) (q : HostRequest)
    {u : World (η × List Received)} {v : World η} (records : u.Records v) :
    World.EndAlike (fun x y => x.1 = y) Eq 0 (World.answer (some (h.recorded.channel s)) q u)
      (World.answer (some (h.channel s)) q v) :=
  World.answer_agrees .eq (.some (h.recorded_agree s)) records q

namespace ScriptHost

section Recorded

variable {s : Setup} {h : Host η} {args : String} {w : World η}

/-- The same world with a host that has received nothing yet. -/
abbrev unheard (w : World η) : World (η × List Received) := w.withHost (w.host, [])

/-- Both worlds start a run alike. -/
theorem unheard_records (w : World η) :
    ((unheard w).withLinkage .linked).Records (w.withLinkage .linked) :=
  ⟨rfl, rfl, rfl, rfl, rfl, rfl, rfl⟩

/-- A host that writes down what it receives is asked for the same. -/
theorem AsksAt.recorded {q : HostRequest} {before : World η} (asks : AsksAt s h args w q before) :
    ∃ u, AsksAt s h.recorded args (unheard w) q u ∧ u.Records before := by
  obtain ⟨unlinked, next, reached⟩ := asks
  have alike : ∀ q (v : World η) (u : World (η × List Received)), u.Records v →
      (World.answer (some (h.channel s)) q v).1 =
          (World.answer (some (h.recorded.channel s)) q u).1 ∧
        (World.answer (some (h.recorded.channel s)) q u).2.Records
          (World.answer (some (h.channel s)) q v).2 := by
    intro q v u records
    obtain ⟨same, after⟩ := World.answer_records h s q records
    exact ⟨same.symm, after⟩
  obtain ⟨u, there, records⟩ := reached.related alike (unheard_records w)
  exact ⟨u, ⟨unlinked, next, there⟩, records⟩

/-- A host that writes down what it receives loses no panic that it would not lose otherwise. -/
theorem LosesPanic.of_recorded (loses : LosesPanic s h.recorded args (unheard w)) :
    LosesPanic s h args w :=
  loses.related (fun q _ _ records => World.answer_records h s q records) (unheard_records w)

/-- A host that writes down what it receives panics as before. -/
theorem PanicsAt.recorded {text : String} {p : Panic} {before : World η}
    (panics : PanicsAt s h args w text p before) :
    ∃ u, PanicsAt s h.recorded args (unheard w) text p u ∧ u.Records before := by
  obtain ⟨u, asks, records⟩ := panics.1.recorded
  exact ⟨u, ⟨asks, (World.answer_records h s _ records).1.trans panics.2⟩, records⟩

/-- A host that writes down what it receives prints as before. -/
theorem Prints.recorded (prints : Prints s h) : Prints s h.recorded := by
  intro text u linked unborrowed
  have alike : u.Records (u.withHost u.host.1) := ⟨rfl, rfl, rfl, rfl, rfl, rfl, rfl⟩
  have same := (h.recorded_agree s).print text u (u.withHost u.host.1) alike linked unborrowed
  exact same.1.trans (prints text _ linked unborrowed)

end Recorded

/-- A panic of the host ends the run: the host is handed no further command, the report of the panic
is the last text that it is handed, and the run returns the panic as a fatal fault. The host may
panic inside any number of files that are being evaluated one inside the other. Only runs in which
something in the engine intercepts the exception that the panic becomes there are excepted. -/
theorem panic_ends_run {s : Setup} (contain : s.policy = .contain)
    (law : s.machine.engine.LetsExceptionsOut) {h : Host η} (prints : Prints s h)
    {args text : String} {w before : World η} {p : Panic}
    (panics : PanicsAt s h args w text p before) (kept : ¬LosesPanic s h args w) :
    (run s (some (h.channel s)) args w).1 = .finished (.error (.fatal p.message)) ∧
      ∃ earlier, received s h args w = earlier ++
        [.command text before.scripts.state,
          .print (Invocation.fatalLine p.message ++ "\n") before.scripts.state] := by
  refine ⟨by rw [run_of_panic contain law prints panics kept], ?_⟩
  -- the host that writes down what it receives panics at the same point, and its run ends alike
  obtain ⟨u, panicsRecorded, records⟩ := panics.recorded
  have ended := run_of_panic contain law prints.recorded panicsRecorded
    fun loses => kept loses.of_recorded
  obtain ⟨⟨linked, -⟩, -, panicked, scripts, unborrowed⟩ := panicsRecorded.available
  have sameState : u.scripts.state = before.scripts.state := records.state
  refine ⟨u.host.2, ?_⟩
  have command := h.recorded_command s text (u := u) (by rw [panicked]; rfl)
  generalize ((h.recorded.channel s).command text u).2 = after at ended command scripts unborrowed
  have linkedStill : (after.note (.error (Invocation.fatalLead ++ p.message))).scripts.linkage =
      .linked := by
    show after.scripts.linkage = .linked
    rw [scripts, linked]
  have printed := prints.recorded (Invocation.fatalLine p.message ++ "\n") _ linkedStill unborrowed
  have print := h.recorded_print s _ (by rw [printed]; rfl)
  rw [received, ended]
  show ((h.recorded.channel s).print _ _).2.host.2 = _
  rw [print]
  show after.host.2 ++ [.print _ after.scripts.state] = _
  rw [command, scripts, sameState, List.append_assoc]
  rfl

/-- The requests of a run, each with the world in which it is made. -/
def requests (s : Setup) (h : Host η) (args : String) (w : World η) :
    List (HostRequest × World η) :=
  Interaction.trail (World.answer (some (h.channel s))) (Invocation.reported s args)
    (w.withLinkage .linked)

/-- The panic of the host as it is asked, with the command and the state of the scripts. -/
def panic? (s : Setup) (h : Host η) (asked : HostRequest × World η) :
    Option (String × Panic × EngineState) :=
  match asked with
  | (.command text, v) =>
    match (World.answer (some (h.channel s)) (.command text) v).1 with
    | .ok (.panicked p) => some (text, p, v.scripts.state)
    | _ => none
  | _ => none

/-- The panics of the host can be read off the requests of the run. -/
theorem exists_panicsAt {s : Setup} {h : Host η} {args text : String} {w : World η} {p : Panic}
    {state : EngineState} (unlinked : w.scripts.isLinked = false)
    (mem : (text, p, state) ∈ (requests s h args w).filterMap (panic? s h)) :
    ∃ before, PanicsAt s h args w text p before ∧ before.scripts.state = state := by
  obtain ⟨⟨q, v⟩, asked, found⟩ := List.mem_filterMap.1 mem
  unfold panic? at found
  split at found
  · rename_i same
    cases same
    split at found
    · rename_i answered
      cases found
      exact ⟨v, ⟨⟨unlinked, Interaction.mem_trail_iff.1 asked⟩, answered⟩, rfl⟩
    · cases found
  · cases found

instance decidableEqExcept {ε α : Type} [DecidableEq ε] [DecidableEq α] :
    DecidableEq (Except ε α)
  | .ok a, .ok b => decidable_of_iff (a = b) (by simp)
  | .error e, .error d => decidable_of_iff (e = d) (by simp)
  | .ok _, .error _ => isFalse (by simp)
  | .error _, .ok _ => isFalse (by simp)

/-- A package whose entry function first makes a promise of a function that throws, and then needs a
module that needs another, which runs a command. -/
def nestedModules : Setup where
  machine := jsonInterpreter.machine
    { base := .fixed "/"
      files :=
        { members :=
          [("require.js", .file
            ("[[\"def\",\"fail\",[[\"throw\",\"no\"]]]," ++
              "[\"def\",\"r2dec_main\",[[\"do\",[\"err\",\"Promise\",[\"get\",\"fail\"]]]," ++
                "[\"do\",[\"require\",\"outer\"]]]]]").toUTF8.toList),
           ("outer.js", .file "[[\"do\",[\"require\",\"inner\"]]]".toUTF8.toList),
           ("inner.js", .file "[[\"do\",[\"r2cmd\",\"s\"]]]".toUTF8.toList)] } }

/-- The panic of the host in the innermost module ends the run. The exception that the promise takes
in is no panic. -/
theorem panic_ends_run_nested :
    nestedModules.policy = .contain ∧ nestedModules.machine.engine.LetsExceptionsOut ∧
      Prints nestedModules troubledHost ∧
      (∃ before, PanicsAt nestedModules troubledHost "" { host := () } "s" ⟨some "gone"⟩ before) ∧
      ¬LosesPanic nestedModules troubledHost "" { host := () } ∧
      (run nestedModules (some (troubledHost.channel nestedModules)) "" { host := () }).1 =
        .finished (.error (.fatal "gone")) ∧
      ∃ earlier, received nestedModules troubledHost "" { host := () } = earlier ++
        [.command "s" .driverLoaded, .print "*** FATAL ERROR: gone\n" .driverLoaded] := by
  have law : nestedModules.machine.engine.LetsExceptionsOut :=
    jsonInterpreter.engine_letsExceptionsOut
  have prints : Prints nestedModules troubledHost := fun _ _ _ _ => rfl
  -- one evaluation of the run serves both
  have evaluated : interceptsAny (World.answer (some (troubledHost.channel nestedModules)))
        (Invocation.reported nestedModules "") (World.withLinkage { host := () } .linked) = false ∧
      ("s", ⟨some "gone"⟩, .driverLoaded) ∈
        (requests nestedModules troubledHost "" { host := () }).filterMap
          (panic? nestedModules troubledHost) := by
    decide +kernel
  obtain ⟨unintercepted, panicked⟩ := evaluated
  have kept : ¬LosesPanic nestedModules troubledHost "" { host := () } := fun loses =>
    Bool.false_ne_true (unintercepted.symm.trans (interceptsAny_of_intercepts loses))
  obtain ⟨before, panics, state⟩ := exists_panicsAt rfl panicked
  have ends := panic_ends_run rfl law prints panics kept
  rw [state] at ends
  exact ⟨rfl, law, prints, ⟨before, panics⟩, kept, ends⟩

end ScriptHost

namespace Script

mutual

/-- Whether a statement contains no `try`, the functions that it defines included. -/
def Stmt.isTryFree : Stmt → Bool
  | .define _ body => isTryFree body
  | .tryCatch _ _ => false
  | .ifElse _ yes no => isTryFree yes && isTryFree no
  | .count _ body => isTryFree body
  | _ => true

/-- Whether statements contain no `try`. -/
def isTryFree : List Stmt → Bool
  | [] => true
  | s :: rest => s.isTryFree && isTryFree rest

end

end Script

namespace ScriptHost

/-- A driver whose entry function makes a promise of a function that runs a command. It has no
object with a `toString` of its own. -/
def promisingDriver : String :=
  "[[\"def\",\"boom\",[[\"do\",[\"r2cmd\",\"x\"]]]]," ++
    "[\"def\",\"r2dec_main\",[[\"do\",[\"err\",\"Promise\",[\"get\",\"boom\"]]]," ++
      "[\"log\",\"after\"]]]]"

/-- The package with that driver alone. -/
def promisedCommand : Setup where
  machine := jsonInterpreter.machine
    { base := .fixed "/"
      files := { members := [("require.js", .file promisingDriver.toUTF8.toList)] } }

/-- A panic that a promise takes in is lost: the run goes on and succeeds, although its package has
no `try`, the engine lets out every exception that nothing intercepts, and the host prints. -/
theorem promise_absorbs_panic :
    (Script.compile promisingDriver).toOption.map Script.isTryFree = some true ∧
      promisedCommand.policy = .contain ∧ promisedCommand.machine.engine.LetsExceptionsOut ∧
      Prints promisedCommand troubledHost ∧
      (∃ before, PanicsAt promisedCommand troubledHost "" { host := () } "x" ⟨some "gone"⟩ before) ∧
      (run promisedCommand (some (troubledHost.channel promisedCommand)) "" { host := () }).1 =
        .finished (.ok ()) ∧
      received promisedCommand troubledHost "" { host := () } =
        [.command "x" .driverLoaded, .print "after\n" .driverLoaded] := by
  have free : (Script.compile promisingDriver).toOption.map Script.isTryFree = some true := by
    decide +kernel
  have evaluated : ("x", ⟨some "gone"⟩, .driverLoaded) ∈
        (requests promisedCommand troubledHost "" { host := () }).filterMap
          (panic? promisedCommand troubledHost) ∧
      (run promisedCommand (some (troubledHost.channel promisedCommand)) ""
        { host := () }).1 = .finished (.ok ()) ∧
      received promisedCommand troubledHost "" { host := () } =
        [.command "x" .driverLoaded, .print "after\n" .driverLoaded] := by
    decide +kernel
  obtain ⟨panicked, ended⟩ := evaluated
  obtain ⟨before, panics, -⟩ := exists_panicsAt rfl panicked
  exact ⟨free, rfl, jsonInterpreter.engine_letsExceptionsOut, fun _ _ _ _ => rfl,
    ⟨before, panics⟩, ended⟩

end ScriptHost

end DecompilerBridge
