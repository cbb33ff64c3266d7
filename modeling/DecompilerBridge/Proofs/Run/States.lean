import DecompilerBridge.Proofs.Run.Diagnostics

/-!
# The states of a run

A run takes the scripts through four states, one after the other, and then back to rest. How far it
gets goes with its result: all four states belong to a run with a result of the scripts, and a run
that is cut short on the way returns a fatal fault.

Two requests alone change what a script host remembers (`ScriptStatus.afterRequest`), so the status
after a drive can be read off the requests that it met (`drive_scripts`). The work of an engine
moves on at three points after it was created, and between them it asks for services only, so that a
stretch of it sets no state (`trail_steady`). It either stops before the entry function was called,
and then gives no result of the scripts, or goes through all four states (`session_gets`).

A fatal fault after the fourth state is possible in one way: the host panics at a command that runs
while the value which the entry expression threw is being described (`panicsAt_of_verdict`).
-/

set_option autoImplicit false

namespace DecompilerBridge

open Script (jsonInterpreter)

variable {η : Type}

/-! ## What requests do to the scripts -/

/-- The state that a request moves the scripts to. -/
def HostRequest.entered? : HostRequest → Option EngineState
  | .enter state => some state
  | _ => none

/-- What a script host remembers after a request. -/
def ScriptStatus.afterRequest (status : ScriptStatus) : HostRequest → ScriptStatus
  | .enter state => { status with state := state }
  | .countEngine => { status with invocations := status.invocations + 1 }
  | _ => status

/-- The states that requests set, in order. -/
def entered (asked : List (HostRequest × World η)) : List EngineState :=
  asked.filterMap fun request => request.1.entered?

/-- The states of two parts follow one another. -/
theorem entered_append (first second : List (HostRequest × World η)) :
    entered (first ++ second) = entered first ++ entered second := by
  simp [entered]

/-- The number of engines that requests count. -/
def enginesCounted (asked : List (HostRequest × World η)) : Nat :=
  asked.countP fun request => request.1 = .countEngine

/-- The engines of two parts add up. -/
theorem enginesCounted_append (first second : List (HostRequest × World η)) :
    enginesCounted (first ++ second) = enginesCounted first + enginesCounted second := by
  simp [enginesCounted]

namespace World

variable {channel : Option (HostChannel η)} {w : World η}

/-- An answer moves the status of the scripts as its request does. -/
theorem answer_scripts (orderly : ∀ p ∈ channel, p.Orderly) (q : HostRequest)
    (linked : w.scripts.linkage = .linked) :
    (answer channel q w).2.scripts = w.scripts.afterRequest q := by
  cases q with
  | command text =>
    show (w.access channel fun p => p.command text).2.scripts = w.scripts
    rcases access_cases channel (fun p => p.command text) w with
      ⟨p, hp, -, -, used⟩ | refused | refused
    · rw [used]
      exact ((orderly p hp).command text w linked).1
    · rw [refused]
    · rw [refused]
  | print text =>
    show (w.access channel fun p => p.print text).2.scripts = w.scripts
    rcases access_cases channel (fun p => p.print text) w with
      ⟨p, hp, -, -, used⟩ | refused | refused
    · rw [used]
      exact ((orderly p hp).print text w linked).1
    · rw [refused]
    · rw [refused]
  | diagnose line =>
    show (w.diagnose channel line).2.scripts = w.scripts
    rcases diagnose_cases channel line w with ⟨p, hp, -, -, printed⟩ | ⟨r, dropped⟩
    · rw [printed]
      exact ((orderly p hp).print (line ++ "\n") w linked).1
    · rw [dropped]
      rfl
  | log record => rfl
  | event e => rfl
  | enter state => rfl
  | countEngine => rfl
  | readings => rfl

/-- The status of the scripts after a drive is told by the requests that were met. -/
theorem drive_scripts {α : Type} (orderly : ∀ p ∈ channel, p.Orderly)
    (t : Invocation.Progress α) (linked : w.scripts.linkage = .linked) :
    (t.drive (answer channel) w).2.scripts =
      (t.trail (answer channel) w).foldl (fun status request => status.afterRequest request.1)
        w.scripts := by
  induction t generalizing w with
  | done a => rfl
  | ask q next ih =>
    have first := answer_scripts orderly q linked
    have still := answer_linkage orderly q linked
    rcases answered : answer channel q w with ⟨e | r, after⟩ <;> rw [answered] at first still
    · simp only [Interaction.drive, Interaction.trail, answered, List.foldl_cons, List.foldl_nil]
      exact first
    · simp only [Interaction.drive, Interaction.trail, answered, List.foldl_cons]
      rw [ih r still, first]

end World

/-- After some requests the status has the last state that was entered, and counts the engines. -/
theorem foldl_afterRequest (asked : List (HostRequest × World η)) (status : ScriptStatus) :
    asked.foldl (fun status request => status.afterRequest request.1) status =
      { status with
        state := (entered asked).getLastD status.state
        invocations := status.invocations + enginesCounted asked } := by
  induction asked generalizing status with
  | nil => rfl
  | cons first rest ih =>
    obtain ⟨q, v⟩ := first
    rw [List.foldl_cons, ih]
    cases q with
    | enter state =>
      have states : entered ((.enter state, v) :: rest) = state :: entered rest := rfl
      rw [states, List.getLastD_cons]
      simp [ScriptStatus.afterRequest, enginesCounted]
    | countEngine =>
      simp [ScriptStatus.afterRequest, entered, HostRequest.entered?, enginesCounted]
      omega
    | _ => simp [ScriptStatus.afterRequest, entered, HostRequest.entered?, enginesCounted]

/-- A request that changes nothing about the scripts. -/
def HostRequest.Steady (q : HostRequest) : Prop := q.entered? = none ∧ q ≠ .countEngine

/-- What the engine and the natives ask for is steady. -/
theorem steady_of_isService (q : HostRequest) (service : q.IsService) : q.Steady := by
  cases q with
  | enter state => exact service.elim
  | countEngine => exact service.elim
  | _ => exact ⟨rfl, nofun⟩

/-- A program that is steady enters no state and counts no engine. -/
theorem trail_steady {α : Type} (channel : Option (HostChannel η)) {t : Invocation.Progress α}
    (asks : t.Asks HostRequest.Steady) (w : World η) :
    let asked := t.trail (World.answer channel) w
    entered asked = [] ∧ enginesCounted asked = 0 := by
  intro asked
  have steady : ∀ request ∈ asked, request.1.Steady := asks.trail
  constructor
  · exact List.filterMap_eq_nil_iff.2 fun request met => (steady request met).1
  · refine List.countP_eq_zero.2 fun request met => ?_
    simpa using (steady request met).2

/-! ## The work of an engine -/

namespace Invocation

/-- The states of a run with a result of the scripts, in order. -/
def lifecycle : List EngineState :=
  [.engineCreated, .nativesRegistered, .driverLoaded, .entryInvoked]

section Steady

variable (m : Machine) (args : String)

/-- Adding the natives is steady. -/
theorem register_steady : Bridge.Asks HostRequest.Steady (register m) :=
  register_asks steady_of_isService m

/-- Loading the driver file is steady. -/
theorem loadDriver_steady : Bridge.Asks HostRequest.Steady (loadDriver m) :=
  loadDriver_has (Bridge.asks_rules steady_of_isService m.engine)
    (Bridge.natives_ask steady_of_isService m) .attempt

/-- The entry expression is steady. -/
theorem entry_steady : Bridge.Asks HostRequest.Steady (entry m args) :=
  (Bridge.asks_rules steady_of_isService m.engine).within (.evaluate _)
    (Bridge.natives_ask steady_of_isService m)

/-- The verdict on it is steady. -/
theorem verdict_steady (ending : Bridge.Ending m.engine.Value Unit) :
    Bridge.Asks HostRequest.Steady (verdict m ending) :=
  verdict_has (Bridge.asks_rules steady_of_isService m.engine)
    (Bridge.natives_ask steady_of_isService m) .attempt ending

end Steady

section Phases

variable (channel : Option (HostChannel η)) (m : Machine) (args : String)
  (live : Live m.engine.State) (w : World η)

/-- Up to the registration of the natives one state is set and one engine is counted. -/
theorem preparation_states :
    let asked := ((preparation m).run live).trail (World.answer channel) w
    entered asked = [.engineCreated] ∧ enginesCounted asked = 1 := by
  intro asked
  obtain ⟨a, b, v, split⟩ : ∃ a b v, asked =
      [(.countEngine, w), (.enter .engineCreated, a),
        (.log (engineRecord w.countEngine.scripts.invocations), b)] ++
        ((register m).run live).trail (World.answer channel) v :=
    ⟨_, _, _, rfl⟩
  obtain ⟨states, engines⟩ := trail_steady channel (register_steady m live) v
  rw [split]
  constructor
  · rw [entered_append, states]
    rfl
  · rw [enginesCounted_append, engines]
    simp [enginesCounted]

/-- A sequence enters the states and counts the engines of its first part, and after a value those
of its second part besides. -/
theorem states_of_bind {σ V α β : Type} (x : Bridge σ V α) (f : α → Bridge σ V β) (live : Live σ)
    {t : Progress (Except (Stop V) β × Live σ)} (whole : (x >>= f).run live = t) :
    let answer := World.answer channel
    (∃ a between there, (x.run live).drive answer w = (.ok (.ok a, between), there) ∧
        t.drive answer w = ((f a).run between).drive answer there ∧
        Interaction.Reaches answer t w ((f a).run between) there ∧
        entered (t.trail answer w) = entered ((x.run live).trail answer w) ++
          entered (((f a).run between).trail answer there) ∧
        enginesCounted (t.trail answer w) = enginesCounted ((x.run live).trail answer w) +
          enginesCounted (((f a).run between).trail answer there)) ∨
      (∀ a between there, (x.run live).drive answer w ≠ (.ok (.ok a, between), there)) ∧
        (∀ b ended after, t.drive answer w ≠ (.ok (.ok b, ended), after)) ∧
        entered (t.trail answer w) = entered ((x.run live).trail answer w) ∧
        enginesCounted (t.trail answer w) = enginesCounted ((x.run live).trail answer w) := by
  subst whole
  intro answer
  by_cases comes : ∃ a between there, (x.run live).drive answer w = (.ok (.ok a, between), there)
  · obtain ⟨a, between, there, driven⟩ := comes
    obtain ⟨goesOn, split⟩ := Bridge.drive_bind_of_value driven f
    refine .inl ⟨a, between, there, driven, goesOn, Bridge.reaches_bind driven f, ?_, ?_⟩
    · rw [split, entered_append]
    · rw [split, enginesCounted_append]
  · have stopped : ∀ a between there,
        (x.run live).drive answer w ≠ (.ok (.ok a, between), there) :=
      fun a between there driven => comes ⟨a, between, there, driven⟩
    obtain ⟨never, split⟩ := Bridge.drive_bind_of_stop stopped f
    exact .inr ⟨stopped, never, congrArg entered split, congrArg enginesCounted split⟩

/-- With its natives an engine moves on, and again once the driver has come to its end. -/
theorem driverPhase_states :
    let answer := World.answer channel
    let asked := ((driverPhase m).run live).trail answer w
    enginesCounted asked = 0 ∧
      ((∀ a loaded before,
          ((driverPhase m).run live).drive answer w ≠ (.ok (.ok a, loaded), before)) ∧
        entered asked = [.nativesRegistered] ∨
      ∃ loaded before, ((driverPhase m).run live).drive answer w = (.ok (.ok (), loaded), before) ∧
        entered asked = [.nativesRegistered, .driverLoaded]) := by
  obtain ⟨states, engines⟩ := trail_steady channel (loadDriver_steady m live)
    (w.enter .nativesRegistered)
  -- the first state is entered before the driver is loaded
  rcases states_of_bind channel (w.enter .nativesRegistered) (loadDriver m)
    (fun _ => Bridge.ask (.enter .driverLoaded) >>= fun _ => pure ()) live rfl with
    ⟨_, loaded, before, -, goesOn, -, entering, counted⟩ | ⟨-, never, entering, counted⟩
  · rw [states] at entering
    rw [engines] at counted
    exact ⟨counted, .inr ⟨loaded, before.enter .driverLoaded, goesOn,
      congrArg (EngineState.nativesRegistered :: ·) entering⟩⟩
  · rw [states] at entering
    exact ⟨counted.trans engines, .inl ⟨never,
      congrArg (EngineState.nativesRegistered :: ·) entering⟩⟩

/-- A run has stopped short of the last state. -/
def StopsAt (states : List EngineState) : Prop :=
  ∃ far, 0 < far ∧ far < lifecycle.length ∧ states = lifecycle.take far

/-- Before the entry call an engine stops short of the last state, or sets three. -/
theorem opening_states :
    let answer := World.answer channel
    let asked := ((opening m).run live).trail answer w
    enginesCounted asked = 1 ∧
      ((∀ loaded before,
          ((opening m).run live).drive answer w ≠ (.ok (.ok (.ok ()), loaded), before)) ∧
        StopsAt (entered asked) ∨
      ∃ loaded before,
        ((opening m).run live).drive answer w = (.ok (.ok (.ok ()), loaded), before) ∧
          entered asked = [.engineCreated, .nativesRegistered, .driverLoaded]) := by
  obtain ⟨states, engines⟩ := preparation_states channel m live w
  rcases states_of_bind channel w (preparation m) (afterPreparation m) live
    (show _ = (opening m).run live from rfl) with
    ⟨registered, ready, there, -, goesOn, -, entering, counted⟩ | ⟨-, never, entering, counted⟩
  · rw [states] at entering
    rw [engines] at counted
    cases registered with
    | error detail =>
      refine ⟨counted, .inl ⟨fun loaded before given => ?_, 1, by decide, by decide, entering⟩⟩
      cases goesOn.symm.trans given
    | ok _ =>
      have same : ((afterPreparation m (.ok ())).run ready).trail (World.answer channel) there =
        ((driverPhase m).run ready).trail (World.answer channel) there := Bridge.trail_map _ _ _ _
      rw [same] at entering counted
      obtain ⟨none, ⟨never, one⟩ | ⟨loaded, before, loads, both⟩⟩ :=
        driverPhase_states channel m ready there
      · rw [one] at entering
        rw [none] at counted
        refine ⟨counted, .inl ⟨fun loaded before given => ?_, 2, by decide, by decide, entering⟩⟩
        exact (Bridge.drive_bind_of_stop never
          fun a => (pure (.ok a) : m.Work (Except String Unit))).1 _ _ _ (goesOn.symm.trans given)
      · rw [both] at entering
        rw [none] at counted
        exact ⟨counted, .inr ⟨loaded, before, goesOn.trans (Bridge.drive_map _ loads), entering⟩⟩
  · rw [states] at entering
    rw [engines] at counted
    exact ⟨counted, .inl ⟨never (.ok ()), 1, by decide, by decide, entering⟩⟩

/-- What is left of the work of an engine once the entry expression has come to an end. -/
def afterEntry (ending : Bridge.Ending m.engine.Value Unit) :
    m.Work (Except String (Except ScriptError Unit)) := .ok <$> verdict m ending

/-- The entry expression has come to an end, in an engine and a world, and what is left of the work
of the engine is the verdict on it. -/
structure EntryDone (channel : Option (HostChannel η)) (m : Machine) (args : String)
    (live : Live m.engine.State) (w : World η) (ending : Bridge.Ending m.engine.Value Unit)
    (called : Live m.engine.State) (there : World η) : Prop where
  attempted : ∃ loaded before,
    ((opening m).run live).drive (World.answer channel) w = (.ok (.ok (.ok ()), loaded), before) ∧
    ((Bridge.attempt (entry m args)).run loaded).drive (World.answer channel) before =
      (.ok (.ok ending, called), there)
  rest : ((session m args).run live).drive (World.answer channel) w =
    ((afterEntry m ending).run called).drive (World.answer channel) (there.enter .entryInvoked)
  reached : Interaction.Reaches (World.answer channel) ((session m args).run live) w
    ((afterEntry m ending).run called) (there.enter .entryInvoked)

/-- An entry call enters one state, once the entry expression has come to an end. -/
theorem callEntry_states (loaded : Live m.engine.State) (before : World η) :
    let answer := World.answer channel
    let call := (.ok <$> callEntry m args : m.Work (Except String (Except ScriptError Unit))).run
      loaded
    let asked := call.trail answer before
    enginesCounted asked = 0 ∧
      ((∀ result ended after, call.drive answer before ≠ (.ok (.ok result, ended), after)) ∧
        entered asked = [] ∨
      ∃ ending called there, ((Bridge.attempt (entry m args)).run loaded).drive answer before =
          (.ok (.ok ending, called), there) ∧
        call.drive answer before = ((afterEntry m ending).run called).drive answer
          (there.enter .entryInvoked) ∧
        Interaction.Reaches answer call before ((afterEntry m ending).run called)
          (there.enter .entryInvoked) ∧
        entered asked = [.entryInvoked]) := by
  have whole : (Bridge.attempt (entry m args) >>= afterCall m).run loaded =
      (.ok <$> callEntry m args : m.Work (Except String (Except ScriptError Unit))).run loaded :=
    congrArg (fun x : m.Work (Except String (Except ScriptError Unit)) => x.run loaded)
      (afterOpening_ok m args).symm
  obtain ⟨states, engines⟩ := trail_steady channel ((entry_steady m args).attempt loaded) before
  rcases states_of_bind channel before (Bridge.attempt (entry m args)) (afterCall m) loaded
      whole with
    ⟨ending, called, there, attempted, goesOn, reaches, entering, counted⟩ |
      ⟨-, never, entering, counted⟩
  · have steady : Bridge.Asks HostRequest.Steady (afterEntry m ending) :=
      (Bridge.asks_rules steady_of_isService m.engine).map _ (verdict_steady m ending)
    obtain ⟨laterStates, laterEngines⟩ := trail_steady channel (steady called)
      (there.enter .entryInvoked)
    rw [states] at entering
    rw [engines, Nat.zero_add] at counted
    exact ⟨counted.trans laterEngines, .inr ⟨ending, called, there, attempted, goesOn,
      reaches.trans (.step rfl (.refl _ _)),
      entering.trans (congrArg (EngineState.entryInvoked :: ·) laterStates)⟩⟩
  · exact ⟨counted.trans engines, .inl ⟨never, entering.trans states⟩⟩

/-- The work of an engine gives no result of the scripts and stops short of the last state, or gets
through the entry expression and sets all four states. -/
theorem session_gets :
    let answer := World.answer channel
    let asked := ((session m args).run live).trail answer w
    enginesCounted asked = 1 ∧
      ((∀ result ended after,
          ((session m args).run live).drive answer w ≠ (.ok (.ok (.ok result), ended), after)) ∧
        StopsAt (entered asked) ∨
      ∃ ending called there, EntryDone channel m args live w ending called there ∧
        entered asked = lifecycle) := by
  have whole : (opening m >>= afterOpening m args).run live = (session m args).run live :=
    congrArg (fun x : m.Work (Except String (Except ScriptError Unit)) => x.run live)
      (session_eq m args).symm
  obtain ⟨engines, opens⟩ := opening_states channel m live w
  rcases states_of_bind channel w (opening m) (afterOpening m args) live whole with
    ⟨opened, loaded, before, driven, goesOn, reaches, entering, counted⟩ |
      ⟨stopped, never, entering, counted⟩
  · rw [engines] at counted
    rcases opens with ⟨never, stops⟩ | ⟨loaded', before', opens, states⟩
    · cases opened with
      | ok _ => exact absurd driven (never loaded before)
      | error message =>
        refine ⟨counted, .inl ⟨fun result ended after given => ?_, ?_⟩⟩
        · cases goesOn.symm.trans given
        · rw [entering]
          exact (List.append_nil _).symm ▸ stops
    · cases driven.symm.trans opens
      rw [states] at entering
      obtain ⟨laterEngines, ⟨never, none⟩ | ⟨ending, called, there, attempted, callGoesOn,
        callReaches, last⟩⟩ := callEntry_states channel m args loaded before
      · refine ⟨counted.trans (congrArg (1 + ·) laterEngines),
          .inl ⟨fun result ended after given => ?_, 3, by decide, by decide, ?_⟩⟩
        · exact never _ _ _ (goesOn.symm.trans given)
        · exact entering.trans (congrArg (_ ++ ·) none)
      · exact ⟨counted.trans (congrArg (1 + ·) laterEngines), .inr ⟨ending, called, there,
          ⟨⟨loaded, before, opens, attempted⟩, goesOn.trans callGoesOn, reaches.trans callReaches⟩,
          entering.trans (congrArg (_ ++ ·) last)⟩⟩
  · rcases opens with ⟨-, stops⟩ | ⟨loaded, before, opens, -⟩
    · rw [← entering] at stops
      exact ⟨counted.trans engines, .inl ⟨fun result => never (.ok result), stops⟩⟩
    · exact absurd opens (stopped _ _ _)

end Phases

/-! ## Faults -/

/-- An outcome that is none of the scripts: a fatal fault, a panic, or none at all. -/
def IsFault : Outcome (Except ScriptError Unit) → Prop
  | .finished (.error (.fatal _)) => True
  | .finished _ => False
  | _ => True

/-- A fatal fault ends a run as one. -/
theorem fatal_isFault (policy : FatalPolicy) (message : String) :
    (fatal policy message).Ends IsFault := by
  cases policy with
  | abort => trivial
  | contain =>
    intro _ r
    cases r <;> trivial

/-- So does the report of a panic. -/
theorem reportPanic_isFault (s : Setup) {ended : Outcome (Except ScriptError Unit)}
    (fault : IsFault ended) : (reportPanic s ended).Ends IsFault := by
  cases ended with
  | finished result => exact fault
  | panicked p => exact fatal_isFault _ _
  | halted h => trivial

/-- Work of an engine that has not come to the entry call ends as a fault. -/
theorem conclusion_isFault {V σ : Type} (s : Setup)
    {result : Except (Stop V) (Except String (Except ScriptError Unit))} (live : Live σ)
    (short : ∀ verdict, result ≠ .ok (.ok verdict)) :
    (conclusion s (result, live)).Ends IsFault := by
  rcases result with (v | p | _ | _) | message | verdict
  · exact fatal_isFault _ _
  · exact fatal_isFault _ _
  · trivial
  · trivial
  · exact (fatal_isFault _ _).bind fun _ => reportPanic_isFault s
  · exact absurd rfl (short verdict)

/-- A record is steady. -/
theorem logs_steady (record : LogRecord) : HostRequest.Steady (.log record) := ⟨rfl, nofun⟩

/-- A diagnostic is steady. -/
theorem diagnoses_steady (line : String) : HostRequest.Steady (.diagnose line) := ⟨rfl, nofun⟩

/-- An invocation without an engine is a fault that sets no state. Any other is the work of its
engine and what follows. -/
theorem begun_split (s : Setup) (args : String) (readings : Readings) :
    ((begun s args readings).Asks HostRequest.Steady ∧ (begun s args readings).Ends IsFault) ∨
      ∃ context, Opens s readings context ∧ begun s args readings =
        ((session s.machine args).run ⟨context, none⟩).bind (conclusion s) := by
  rcases begun_cases s args readings with works | ⟨message, faulty⟩ | overflown
  · exact .inr works
  · rw [faulty]
    exact .inl ⟨(fatal_asks logs_steady diagnoses_steady _ _).bind fun _ =>
        reportPanic_asks logs_steady diagnoses_steady _ _,
      (fatal_isFault _ _).bind fun _ => reportPanic_isFault s⟩
  · rw [overflown]
    exact .inl ⟨fatal_asks logs_steady diagnoses_steady _ _, fatal_isFault _ _⟩

end Invocation

/-! ## A panic after the last state -/

namespace World

variable {channel : Option (HostChannel η)} {w : World η}

/-- A stretch of a run that asks for services alone leaves the scripts as they are. -/
theorem reached_steady {α : Type} (orderly : ∀ p ∈ channel, p.Orderly)
    {t t' : Invocation.Progress α} {v : World η}
    (reached : Interaction.Reaches (answer channel) t w t' v)
    (asks : t.Asks HostRequest.Steady) (linked : w.scripts.linkage = .linked) :
    v.scripts = w.scripts := by
  induction reached with
  | refl => rfl
  | @step q next u r after t v answered _ ih =>
    have first := answer_scripts orderly q linked
    rw [answered] at first
    have steady : u.scripts.afterRequest q = u.scripts := by
      obtain ⟨moves, counts⟩ := asks.1
      cases q with
      | enter state => cases moves
      | countEngine => exact absurd rfl counts
      | _ => rfl
    rw [steady] at first
    have still : after.scripts.linkage = .linked := by rw [first, linked]
    exact (ih (asks.2 r) still).trans first

/-- A host whose printing does not panic panics at commands alone. -/
theorem command_of_panic
    (calm : ∀ p ∈ channel, ∀ text v panic, (p.print text v).1 ≠ .panicked panic)
    {q : HostRequest} {r : q.Reply} {panic : Panic} (answered : (answer channel q w).1 = .ok r)
    (panicked : q.panic? r = some panic) : ∃ text, q = .command text := by
  cases q with
  | command text => exact ⟨text, rfl⟩
  | print text =>
    have none := access_calm (fun p hp => calm p hp text w) answered
    cases none.symm.trans panicked
  | diagnose line =>
    have none := diagnose_calm (fun p hp => calm p hp (line ++ "\n") w) answered
    cases none.symm.trans panicked
  | log record => cases panicked
  | event e => cases panicked
  | enter state => cases panicked
  | countEngine => cases panicked
  | readings => cases panicked

end World

namespace ScriptHost

variable {s : Setup} {h : Host η} {args : String} {w : World η}

/-- A panic that comes out of the verdict on the entry expression is one of the host, at a command
that runs while a thrown value is described. -/
theorem panicsAt_of_verdict (unlinked : w.scripts.isLinked = false)
    (calm : ∀ text v panic, ((h.channel s).print text v).1 ≠ .panicked panic)
    {context : s.machine.engine.State} (works : Invocation.begun s args (w.readings 0) =
      ((Invocation.session s.machine args).run ⟨context, none⟩).bind (Invocation.conclusion s))
    {ending : Bridge.Ending s.machine.engine.Value Unit} {called last : Live s.machine.engine.State}
    {there after : World η} {p : Panic}
    (done : Invocation.EntryDone (some (h.channel s)) s.machine args ⟨context, none⟩ (started w)
      ending called there)
    (driven : ((Invocation.afterEntry s.machine ending).run called).drive
      (World.answer (some (h.channel s))) (there.enter .entryInvoked) =
        (.ok (.error (.unwound p), last), after)) :
    ∃ text panic before, PanicsAt s h args w text panic before ∧
      before.scripts.state = .entryInvoked := by
  have orderly := h.some_channel_orderly s
  have linked : (there.enter .entryInvoked).scripts.linkage = .linked :=
    World.reached_linked orderly done.reached rfl
  -- nothing was parked, or the attempt would have gone on with it
  have parked : called.parked = none := by
    obtain ⟨loaded, before, -, attempted⟩ := done.attempted
    rcases Bridge.attempt_cases attempted with ⟨_, rfl, -⟩ | ⟨v, -, parked, -⟩
    · cases driven
    · exact parked
  refine Classical.byContradiction fun none => ?_
  have rules := Bridge.quiet_rules s.machine.engine
  have quiet : Bridge.Quiet (Invocation.afterEntry s.machine ending) :=
    rules.map _ (Invocation.verdict_has rules (Bridge.natives_quiet s.machine) .attempt ending)
  have steady : Bridge.Asks HostRequest.Steady (Invocation.afterEntry s.machine ending) :=
    (Bridge.asks_rules steady_of_isService s.machine.engine).map _
      (Invocation.verdict_steady s.machine ending)
  have still := (quiet called parked).of_drive ?_ driven
  · exact still.still p rfl
  · intro q next before r reached answered
    cases panicked : q.panic? r with
    | none => rfl
    | some panic =>
      obtain ⟨text, rfl⟩ := World.command_of_panic (by rintro p ⟨⟩; exact calm) answered panicked
      have state := World.reached_steady orderly reached (steady called) linked
      refine absurd ⟨text, panic, before, ⟨⟨unlinked, ?_⟩, ?_⟩, ?_⟩ none
      · rw [Invocation.reported_eq]
        have reaches := (done.reached.trans reached).bind (Invocation.conclusion s)
        rw [← works] at reaches
        exact ⟨_, .step rfl reaches⟩
      · cases r with
        | panicked p =>
          cases panicked
          exact answered
        | _ => cases panicked
      · rw [state]
        rfl

/-! ## The run -/

/-- How far a run has got, by the states that its requests set, and how its work has ended, if it
has. -/
inductive GetsTo (s : Setup) (h : Host η) (args : String) (w : World η) :
    List EngineState → Nat → Except Halt (Outcome (Except ScriptError Unit)) → Prop where
  /-- It has no engine. -/
  | nowhere {ended} : (∀ outcome, ended = .ok outcome → Invocation.IsFault outcome) →
      GetsTo s h args w [] 0 ended
  /-- It has stopped before its natives were added, in the driver, or in the entry expression. -/
  | stopped {states ended} : Invocation.StopsAt states →
      (∀ outcome, ended = .ok outcome → Invocation.IsFault outcome) →
      GetsTo s h args w states 1 ended
  /-- It has got to the verdict on the entry expression. -/
  | through {ended} : (∀ outcome, ended = .ok outcome →
        (∃ result, outcome = .finished result ∧ Invocation.IsVerdict result) ∨
        Invocation.IsFault outcome ∧ (outcome.halt? = none →
          ∃ text panic before, PanicsAt s h args w text panic before ∧
            before.scripts.state = .entryInvoked)) →
      GetsTo s h args w Invocation.lifecycle 1 ended

/-- A run with an engine sets the states that the work of the engine sets, and counts one engine.
What comes before and after that work does neither. -/
theorem requests_of_engine {context : s.machine.engine.State}
    (works : Invocation.begun s args (w.readings 0) =
      ((Invocation.session s.machine args).run ⟨context, none⟩).bind (Invocation.conclusion s)) :
    entered (requests s h args w) =
        entered (((Invocation.session s.machine args).run ⟨context, none⟩).trail
          (World.answer (some (h.channel s))) (started w)) ∧
      enginesCounted (requests s h args w) = 1 := by
  obtain ⟨engines, -⟩ := Invocation.session_gets (some (h.channel s)) s.machine args
    ⟨context, none⟩ (started w)
  have whole : entered (requests s h args w) = entered ((((Invocation.session s.machine args).run
        ⟨context, none⟩).bind (Invocation.conclusion s)).trail
          (World.answer (some (h.channel s))) (started w)) ∧
      enginesCounted (requests s h args w) = enginesCounted ((((Invocation.session s.machine
        args).run ⟨context, none⟩).bind (Invocation.conclusion s)).trail
          (World.answer (some (h.channel s))) (started w)) := by
    rw [requests_eq, works]
    exact ⟨rfl, by simp [enginesCounted]⟩
  rw [whole.1, whole.2, ← engines]
  rcases driven : ((Invocation.session s.machine args).run ⟨context, none⟩).drive
      (World.answer (some (h.channel s))) (started w) with ⟨halt | ended, mid⟩
  · rw [Interaction.trail_bind_of_error driven]
    exact ⟨rfl, rfl⟩
  · obtain ⟨states, none⟩ := trail_steady (some (h.channel s))
      (Invocation.conclusion_asks Invocation.logs_steady Invocation.diagnoses_steady s ended) mid
    rw [Interaction.trail_bind driven, entered_append, enginesCounted_append, states, none]
    exact ⟨List.append_nil _, rfl⟩

/-- A run that has got through the entry expression ends with the verdict on it, or as a fault. If
the process goes on after a fault, the host has panicked while a thrown value was described. -/
theorem outcome_of_done (unlinked : w.scripts.isLinked = false)
    (calm : ∀ text v panic, ((h.channel s).print text v).1 ≠ .panicked panic)
    {context : s.machine.engine.State} (works : Invocation.begun s args (w.readings 0) =
      ((Invocation.session s.machine args).run ⟨context, none⟩).bind (Invocation.conclusion s))
    {ending : Bridge.Ending s.machine.engine.Value Unit} {called live : Live s.machine.engine.State}
    {there mid : World η} {result : Except (Stop s.machine.engine.Value)
      (Except String (Except ScriptError Unit))}
    (done : Invocation.EntryDone (some (h.channel s)) s.machine args ⟨context, none⟩ (started w)
      ending called there)
    (driven : ((Invocation.session s.machine args).run ⟨context, none⟩).drive
      (World.answer (some (h.channel s))) (started w) = (.ok (result, live), mid))
    {outcome : Outcome (Except ScriptError Unit)}
    (ended : ((Invocation.conclusion s (result, live)).drive (World.answer (some (h.channel s)))
      mid).1 = .ok outcome) :
    (∃ result, outcome = .finished result ∧ Invocation.IsVerdict result) ∨
      Invocation.IsFault outcome ∧ (outcome.halt? = none →
        ∃ text panic before, PanicsAt s h args w text panic before ∧
          before.scripts.state = .entryInvoked) := by
  by_cases given : ∃ verdict, result = .ok (.ok verdict)
  · obtain ⟨verdict, rfl⟩ := given
    cases ended
    exact .inl ⟨verdict, rfl,
      (Invocation.session_gives s.machine args _).of_drive driven _ rfl verdict rfl⟩
  · have short : ∀ verdict, result ≠ .ok (.ok verdict) := fun verdict same => given ⟨verdict, same⟩
    have fault := (Invocation.conclusion_isFault s live short).of_drive (Prod.ext ended rfl)
    refine .inr ⟨fault, fun going => ?_⟩
    have own := (Invocation.session_attempted s.machine args _).of_drive driven
    have last := done.rest.symm.trans driven
    rcases result with (v | p | _ | _) | message | verdict
    · exact own.elim
    · exact panicsAt_of_verdict unlinked calm works done last
    · cases ended
      cases going
    · cases ended
      cases going
    · -- the verdict is no fault of the registration
      obtain ⟨a, after, between, -, mapped⟩ := Bridge.drive_bind_eq_ok_iff.1 last
      cases mapped
    · exact absurd rfl (short verdict)

/-- The states and the engines of a run tell how far it gets. -/
theorem getsTo (args : String) (unlinked : w.scripts.isLinked = false)
    (calm : ∀ text v panic, ((h.channel s).print text v).1 ≠ .panicked panic) :
    GetsTo s h args w (entered (requests s h args w)) (enginesCounted (requests s h args w))
      ((Invocation.reported s args).drive (World.answer (some (h.channel s)))
        (w.withLinkage .linked)).1 := by
  have begins : (Invocation.reported s args).drive (World.answer (some (h.channel s)))
      (w.withLinkage .linked) = (Invocation.begun s args (w.readings 0)).drive
        (World.answer (some (h.channel s))) (started w) := drive_reported s _ args _
  rw [begins]
  rcases Invocation.begun_split s args (w.readings 0) with ⟨steady, fault⟩ | ⟨context, opens, works⟩
  · obtain ⟨states, engines⟩ := trail_steady (some (h.channel s)) steady (started w)
    have states' : entered (requests s h args w) = [] := by
      rw [requests_eq]
      exact states
    have engines' : enginesCounted (requests s h args w) = 0 := by
      rw [requests_eq]
      simpa [enginesCounted] using engines
    rw [states', engines']
    refine .nowhere fun outcome ended => ?_
    exact fault.of_drive (Prod.ext ended rfl)
  · let session := (Invocation.session s.machine args).run ⟨context, none⟩
    let answer := World.answer (some (h.channel s))
    obtain ⟨-, gets⟩ := Invocation.session_gets (some (h.channel s)) s.machine args
      ⟨context, none⟩ (started w)
    obtain ⟨sameStates, oneEngine⟩ := requests_of_engine (h := h) works
    rw [sameStates, oneEngine, works, Interaction.drive_bind]
    rcases driven : session.drive answer (started w) with ⟨halt | ⟨result, live⟩, mid⟩
    · rw [driven]
      rcases gets with ⟨-, states⟩ | ⟨ending, called, there, -, states⟩
      · refine .stopped states fun outcome ended => ?_
        cases ended
      · rw [states]
        refine .through fun outcome ended => ?_
        cases ended
    · rw [driven]
      rcases gets with ⟨never, states⟩ | ⟨ending, called, there, done, states⟩
      · refine .stopped states fun outcome ended => ?_
        have short : ∀ verdict, result ≠ .ok (.ok verdict) := by
          rintro verdict rfl
          exact never verdict live mid driven
        exact (Invocation.conclusion_isFault s live short).of_drive (Prod.ext ended rfl)
      · rw [states]
        refine .through fun outcome ended => ?_
        exact outcome_of_done unlinked calm works done driven ended

/-- The states that a run sets: those that its requests set, and the one that its tear-down sets,
unless the process goes no further. -/
def statesSet (s : Setup) (h : Host η) (args : String) (w : World η) : List EngineState :=
  entered (requests s h args w) ++
    match (run s (some (h.channel s)) args w).1 with
    | .halted _ => []
    | _ => [.idle]

/-- After a run the scripts are in the state that was set last, and have counted the engines that
were asked for. -/
theorem run_status (args : String) (unlinked : w.scripts.isLinked = false) :
    (run s (some (h.channel s)) args w).2.scripts.state =
        (statesSet s h args w).getLastD w.scripts.state ∧
      (run s (some (h.channel s)) args w).2.scripts.invocations =
        w.scripts.invocations + enginesCounted (requests s h args w) := by
  have status := World.drive_scripts (h.some_channel_orderly s) (Invocation.reported s args)
    (w := w.withLinkage .linked) rfl
  rw [foldl_afterRequest] at status
  rw [statesSet, run_of_unlinked s _ args unlinked, finish_fst]
  unfold drive requests at *
  generalize Interaction.trail (World.answer (some (h.channel s))) (Invocation.reported s args)
    (w.withLinkage .linked) = asked at status ⊢
  generalize Interaction.drive (World.answer (some (h.channel s))) (Invocation.reported s args)
    (w.withLinkage .linked) = driven at status ⊢
  obtain ⟨halt | outcome, after⟩ := driven
  · simp only [Outcome.ofDriven, finish, List.append_nil]
    rw [show after.scripts = _ from status]
    exact ⟨rfl, rfl⟩
  · cases outcome with
    | halted halt =>
      simp only [Outcome.ofDriven, finish, List.append_nil]
      rw [show after.scripts = _ from status]
      exact ⟨rfl, rfl⟩
    | finished result =>
      have engines : after.scripts.invocations = _ := congrArg ScriptStatus.invocations status
      refine ⟨?_, engines⟩
      simp [Outcome.ofDriven, finish, tearDown, World.enter, World.note]
    | panicked panic =>
      have engines : after.scripts.invocations = _ := congrArg ScriptStatus.invocations status
      refine ⟨?_, engines⟩
      simp [Outcome.ofDriven, finish, tearDown, World.enter, World.note]

/-- Hosts that do the same but for what is refused take a run through the same states. -/
theorem statesSet_of_mirrors {θ : Type} {H : η → θ → Prop} {h' : Host θ}
    (mirrors : h.Mirrors (fun _ => True) H h') {x : θ} (hosts : H w.host x) :
    statesSet s h args w = statesSet s h' args (w.withHost x) := by
  let R (v : World η) (u : World θ) : Prop :=
    v.Alike H (fun l l' => transitions l = transitions l') 0 u
  have agree := mirrors.agree transitions_relation
    (fun q l l' _ same => (transitions_append_refusalRecords l q).trans same) s
  have alike : ∀ q v u, R v u →
      (World.answer (some (h.channel s)) q v).1 = (World.answer (some (h'.channel s)) q u).1 ∧
        R (World.answer (some (h.channel s)) q v).2 (World.answer (some (h'.channel s)) q u).2 :=
    fun q v u related => World.answer_agrees transitions_relation (.some agree) related q
  have seen : ∀ v u, R v u → v.scripts.state = u.scripts.state := fun _ _ related => related.state
  have start : R (w.withLinkage .linked) ((w.withHost x).withLinkage .linked) :=
    ⟨rfl, rfl, rfl, hosts, rfl, rfl, rfl⟩
  have met := Interaction.trail_related alike seen (Invocation.reported s args) start
  have states : ∀ {ζ : Type} (asked : List (HostRequest × World ζ)), entered asked =
      (asked.map (Prod.map id fun v => v.scripts.state)).filterMap fun request =>
        request.1.entered? := by
    intro ζ asked
    rw [List.filterMap_map]
    rfl
  have same : entered (requests s h args w) = entered (requests s h' args (w.withHost x)) := by
    rw [states, states]
    exact congrArg _ met
  rw [statesSet, statesSet, same, (sameRun_of_mirrors mirrors s args hosts).outcome]

/-- The host panics at a command that runs after the last state was set, while the value which the
entry expression threw is described. -/
def PanicsInVerdict (s : Setup) (h : Host η) (args : String) (w : World η) : Prop :=
  ∃ text panic before, PanicsAt s h args w text panic before ∧
    before.scripts.state = .entryInvoked

/-- How a result goes with the states that the work of a run has set. -/
inductive Matches (s : Setup) (h : Host η) (args : String) (w : World η) :
    List EngineState → Except ScriptError Unit → Prop where
  | success : Matches s h args w Invocation.lifecycle (.ok ())
  | evaluation (detail : String) :
      Matches s h args w Invocation.lifecycle (.error (.evaluation detail))
  | fatal {states : List EngineState} (text : String) :
      (states = Invocation.lifecycle → PanicsInVerdict s h args w) →
      Matches s h args w states (.error (.fatal text))

/-- However far a run gets, its states come in their order. -/
theorem GetsTo.isPrefix {states : List EngineState} {engines : Nat}
    {ended : Except Halt (Outcome (Except ScriptError Unit))}
    (gets : GetsTo s h args w states engines ended) : states <+: Invocation.lifecycle := by
  cases gets with
  | nowhere => exact List.nil_prefix
  | stopped stops =>
    obtain ⟨far, -, -, rfl⟩ := stops
    exact List.take_prefix far _
  | through => exact List.prefix_refl _

/-- A run counts an engine exactly if it gets to the first state. -/
theorem GetsTo.engines_eq {states : List EngineState} {engines : Nat}
    {ended : Except Halt (Outcome (Except ScriptError Unit))}
    (gets : GetsTo s h args w states engines ended) :
    engines = if .engineCreated ∈ states then 1 else 0 := by
  cases gets with
  | nowhere => rfl
  | stopped stops =>
    obtain ⟨far, some, -, rfl⟩ := stops
    obtain ⟨more, rfl⟩ := Nat.exists_eq_add_of_lt some
    rw [Nat.zero_add, Invocation.lifecycle, List.take_succ_cons, if_pos List.mem_cons_self]
  | through => rfl

/-- The result matches how far the run gets. -/
theorem GetsTo.matches_result {states : List EngineState} {engines : Nat}
    {result : Except ScriptError Unit}
    (gets : GetsTo s h args w states engines (.ok (.finished result))) :
    Matches s h args w states result := by
  have fault : Invocation.IsFault (.finished result) → ∃ text, result = .error (.fatal text) := by
    intro isFault
    rcases result with (_ | detail | text) | _
    · exact isFault.elim
    · exact isFault.elim
    · exact ⟨text, rfl⟩
    · exact isFault.elim
  cases gets with
  | nowhere ends =>
    obtain ⟨text, rfl⟩ := fault (ends _ rfl)
    exact .fatal text nofun
  | stopped stops ends =>
    obtain ⟨text, rfl⟩ := fault (ends _ rfl)
    refine .fatal text fun all => ?_
    obtain ⟨far, -, short, rfl⟩ := stops
    have length := congrArg List.length all
    rw [List.length_take] at length
    omega
  | through ends =>
    rcases ends _ rfl with ⟨_, ⟨⟩, rfl | ⟨detail, rfl⟩⟩ | ⟨isFault, panics⟩
    · exact .success
    · exact .evaluation detail
    · obtain ⟨text, rfl⟩ := fault isFault
      exact .fatal text fun _ => panics rfl

/-- A package whose entry function throws an object that runs a command as it is made a text of. -/
def describedCommand : Setup where
  machine := jsonInterpreter.machine
    { base := .fixed "/"
      files := { members := [("require.js", .file
        "[[\"def\",\"r2dec_main\",[[\"throw\",[\"str\",[\"r2cmd\",\"x\"]]]]]]".toUTF8.toList)] } }

end ScriptHost

end DecompilerBridge
