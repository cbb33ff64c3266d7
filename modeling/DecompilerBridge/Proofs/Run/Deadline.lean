import Mathlib.Data.List.TakeWhile
import DecompilerBridge.Proofs.Bridge.Interruptions
import DecompilerBridge.Proofs.Run.Diagnostics

/-!
# The deadline ends the entry call

The deadline can interrupt the driver file, the entry call, or a module inside either of them, and
the two phases of a run take an interruption differently.

* An interruption during the entry call fails the run, unless something in the engine intercepts it
  or what it has become (`entry_interrupted_fails`). On a host that serves every request the work
  comes to an end, since an engine past its deadline does (`Serves.session_ends`), and so the
  failure is returned as a failed evaluation.
* An interruption of the driver is printed, and nothing more comes of it: the driver is over with
  that line, and the entry call alone decides the result (`loadDriver_told`, `succeeds_iff`).

The requests of a run are split where the driver phase and the entry call start. What is said about
the phases is said about the branches of the program, so it holds for every host. Of the engine no
more is known than how it treats exceptions and that it keeps its deadline.
-/

set_option autoImplicit false

namespace DecompilerBridge

open Script (jsonInterpreter Engine)

variable {η : Type}

/-- A module that was read has the file name that its name stands for. -/
theorem Resolver.file_of_read {r : Resolver} {kind : ModuleKind} {name : String} {found : Module}
    (looked : (r.read kind name).1 = .ok found) : found.file = kind.fileName name := by
  unfold Resolver.read at looked
  split at looked
  · cases looked
  · dsimp only at looked
    split at looked
    · cases looked
    · cases looked
    · cases looked
      rfl

namespace Invocation

open Bridge (Heeds HeedsTo Gives trace_bind)

/-! ## The phases of a run -/

/-- Whether a request comes before the driver phase, in a run that gets there. -/
def precedesDriver (q : HostRequest) : Bool := q ≠ .enter .nativesRegistered

/-- Whether a request comes before the entry call, in a run that gets there. -/
def precedesEntry (q : HostRequest) : Bool := q ≠ .enter .driverLoaded

/-- The requests of a run from the driver phase on, up to the entry call. -/
def driverPart (qs : List HostRequest) : List HostRequest :=
  (qs.dropWhile precedesDriver).takeWhile precedesEntry

/-- The requests of a run from the entry call on. -/
def entryPart (qs : List HostRequest) : List HostRequest := qs.dropWhile precedesEntry

/-- A request that starts neither of the phases. -/
def StartsNone (q : HostRequest) : Prop := precedesDriver q = true ∧ precedesEntry q = true

/-- What the engine and the natives ask for starts no phase. -/
theorem StartsNone.of_isService {q : HostRequest} (service : q.IsService) : StartsNone q := by
  cases q with
  | enter state => exact service.elim
  | _ => exact ⟨rfl, rfl⟩

/-- The phases start after the requests that start none of them. -/
theorem parts_append {first : List HostRequest} (none : ∀ q ∈ first, StartsNone q)
    (rest : List HostRequest) :
    driverPart (first ++ rest) = driverPart rest ∧ entryPart (first ++ rest) = entryPart rest := by
  constructor
  · rw [driverPart, List.dropWhile_append_of_pos fun q mem => (none q mem).1]
    rfl
  · rw [entryPart, List.dropWhile_append_of_pos fun q mem => (none q mem).2]
    rfl

/-- Requests that start no phase have none. -/
theorem parts_eq_nil {qs : List HostRequest} (none : ∀ q ∈ qs, StartsNone q) :
    driverPart qs = [] ∧ entryPart qs = [] := by
  obtain ⟨driver, entry⟩ := parts_append none []
  rw [List.append_nil] at driver entry
  exact ⟨driver, entry⟩

/-- A driver phase that the process does not get out of is all that follows. -/
theorem parts_of_driver {first driven : List HostRequest} (none : ∀ q ∈ first, StartsNone q)
    (own : ∀ q ∈ driven, StartsNone q) :
    driverPart (first ++ .enter .nativesRegistered :: driven) =
        .enter .nativesRegistered :: driven ∧
      entryPart (first ++ .enter .nativesRegistered :: driven) = [] := by
  obtain ⟨driver, entry⟩ := parts_append none (.enter .nativesRegistered :: driven)
  have before : driven.takeWhile precedesEntry = driven :=
    List.takeWhile_eq_self_iff.2 fun q mem => (own q mem).2
  have nothing : driven.dropWhile precedesEntry = [] :=
    List.dropWhile_eq_nil_iff.2 fun q mem => (own q mem).2
  rw [driver, entry]
  exact ⟨congrArg (HostRequest.enter .nativesRegistered :: ·) before, nothing⟩

/-- A driver phase ends where the entry call starts. -/
theorem parts_of_entry {first driven : List HostRequest} (none : ∀ q ∈ first, StartsNone q)
    (own : ∀ q ∈ driven, StartsNone q) (called : List HostRequest) :
    driverPart (first ++ .enter .nativesRegistered :: (driven ++ .enter .driverLoaded :: called)) =
        .enter .nativesRegistered :: driven ∧
      entryPart (first ++ .enter .nativesRegistered :: (driven ++ .enter .driverLoaded :: called)) =
        .enter .driverLoaded :: called := by
  obtain ⟨driver, entry⟩ :=
    parts_append none (.enter .nativesRegistered :: (driven ++ .enter .driverLoaded :: called))
  have before : (driven ++ .enter .driverLoaded :: called).takeWhile precedesEntry = driven := by
    rw [List.takeWhile_append_of_pos fun q mem => (own q mem).2]
    exact List.append_nil _
  have rest : (driven ++ .enter .driverLoaded :: called).dropWhile precedesEntry =
      .enter .driverLoaded :: called := List.dropWhile_append_of_pos fun q mem => (own q mem).2
  rw [driver, entry]
  exact ⟨congrArg (HostRequest.enter .nativesRegistered :: ·) before, rest⟩

variable {m : Machine} {args : String} {live : Live m.engine.State} {qs : List HostRequest}

/-- How far the work of an engine gets on a branch. -/
inductive Phases (m : Machine) (args : String) (qs : List HostRequest)
    (ended : Except (Stop m.engine.Value) (Except String (Except ScriptError Unit)) ×
      Live m.engine.State) : Prop where
  /-- The engine does not get its natives. -/
  | unprepared (none : ∀ q ∈ qs, StartsNone q) (short : ∀ verdict, ended.1 ≠ .ok (.ok verdict))
  /-- The process goes no further than the driver phase. -/
  | driver {prepared stop} {driven : List HostRequest} (same : ended.1 = .error stop)
      (part : driverPart qs = .enter .nativesRegistered :: driven) (whole : entryPart qs = [])
      (trace : Interaction.Trace ((loadDriver m).run prepared) driven (.error stop, ended.2))
  /-- The engine goes on to the entry call. -/
  | entry {prepared loaded result} {driven called : List HostRequest}
      (same : ended.1 = Except.ok <$> result)
      (part : driverPart qs = .enter .nativesRegistered :: driven)
      (trace : Interaction.Trace ((loadDriver m).run prepared) driven (.ok (), loaded))
      (rest : entryPart qs = .enter .driverLoaded :: called)
      (call : Interaction.Trace ((callEntry m args).run loaded) called (result, ended.2))

/-- Neither phase starts before an engine has its natives. -/
theorem preparation_asks (m : Machine) : Bridge.Asks StartsNone (preparation m) := by
  intro live
  exact ⟨⟨rfl, rfl⟩, fun _ => ⟨⟨rfl, rfl⟩, fun _ => ⟨⟨rfl, rfl⟩, fun _ =>
    register_asks (fun _ => StartsNone.of_isService) m live⟩⟩⟩

/-- Nor does the driver start the entry call. -/
theorem loadDriver_asks (m : Machine) : Bridge.Asks StartsNone (loadDriver m) :=
  loadDriver_has (Bridge.asks_rules (fun _ => StartsNone.of_isService) m.engine)
    (Bridge.natives_ask (fun _ => StartsNone.of_isService) m) .attempt

/-- The work of an engine with its phases in order. -/
theorem session_phases_eq (m : Machine) (args : String) :
    session m args = preparation m >>= fun registered => match registered with
      | .error detail => pure (.error ("cannot register natives: " ++ detail))
      | .ok () => Bridge.ask (.enter .nativesRegistered) >>= fun _ => loadDriver m >>= fun _ =>
        Bridge.ask (.enter .driverLoaded) >>= fun _ => .ok <$> callEntry m args := by
  rw [session_eq, opening, bind_assoc]
  refine congrArg (preparation m >>= ·) (funext fun registered => ?_)
  cases registered with
  | error detail => rfl
  | ok _ => simp only [driverPhase, afterOpening, bind_assoc, pure_bind, map_bind, map_pure]

/-- Every branch of the work of an engine gets so far. -/
theorem session_phases
    {ended : Except (Stop m.engine.Value) (Except String (Except ScriptError Unit)) ×
      Live m.engine.State}
    (trace : Interaction.Trace ((session m args).run live) qs ended) : Phases m args qs ended := by
  rw [session_phases_eq] at trace
  rcases trace_bind trace with
    ⟨stop, stopped, last⟩ | ⟨registered, between, first, second, rfl, before, rest⟩
  · refine .unprepared (stopped.asks (preparation_asks m live)) fun verdict => ?_
    rw [last]
    exact nofun
  have none := before.asks (preparation_asks m live)
  cases registered with
  | error detail =>
    cases rest
    rw [List.append_nil]
    exact .unprepared none nofun
  | ok _ =>
    cases rest with
    | ask _ rest =>
      rcases trace_bind rest with ⟨stop, stopped, last⟩ | ⟨_, loaded, driven, _, rfl, told, rest⟩
      · obtain ⟨driver, entry⟩ := parts_of_driver none (stopped.asks (loadDriver_asks m _))
        exact .driver last driver entry stopped
      · cases rest with
        | @ask _ _ called _ _ rest =>
          obtain ⟨driver, entry⟩ := parts_of_entry none (told.asks (loadDriver_asks m _)) called
          rcases trace_bind rest with
            ⟨stop, stopped, last⟩ | ⟨result, after, first, nothing, rfl, call, rest⟩
          · refine .entry ?_ driver told entry stopped
            exact last
          · cases rest
            rw [List.append_nil] at driver entry ⊢
            exact .entry rfl driver told entry call

/-! ## An interruption during the entry call -/

/-- An entry call that is interrupted does not succeed. -/
theorem callEntry_heeds (law : m.engine.LetsExceptionsOut) (args : String) :
    HeedsTo (fun result => result ≠ .ok ()) (callEntry m args) := by
  have script : Heeds (entry m args) :=
    (Bridge.heeds_rules law).within (.evaluate _) (Bridge.natives_heed law)
  rw [callEntry_eq]
  refine HeedsTo.bind script.attempt (fun ending cut => ?_) fun ending => ?_
  · exact Gives.after _ fun _ => verdict_fails m (cut ())
  · have moved : Heeds (Bridge.ask (.enter .entryInvoked) : m.Work Unit) := HeedsTo.ask nofun
    refine HeedsTo.bind moved (fun _ never => never.elim) fun _ => ?_
    cases ending with
    | value a => exact .of_done fun _ => ⟨_, rfl⟩
    | thrown v => exact .of_gives (verdict_fails m nofun)

/-- The work of an engine that is interrupted during the entry call does not succeed. -/
theorem session_heeds (law : m.engine.LetsExceptionsOut)
    {ended : Except (Stop m.engine.Value) (Except String (Except ScriptError Unit)) ×
      Live m.engine.State}
    (trace : Interaction.Trace ((session m args).run live) qs ended)
    (hit : interrupted (entryPart qs) = true) : ended.1 ≠ .ok (.ok (.ok ())) := by
  cases session_phases trace with
  | unprepared none =>
    rw [(parts_eq_nil none).2] at hit
    cases hit
  | driver _ _ whole =>
    rw [whole] at hit
    cases hit
  | @entry _ _ result _ _ same _ _ rest call =>
    rw [rest] at hit
    -- the move to the next state is not interrupted
    have later : interrupted _ = true := hit
    rw [same]
    intro succeeded
    rcases result with stop | verdict
    · cases succeeded
    · cases succeeded
      exact callEntry_heeds law args _ _ _ call later _ rfl rfl

/-! ## An interruption of the driver -/

/-- A list of requests ends with the line that tells of a failed driver. -/
def TellsDriver (qs : List HostRequest) : Prop :=
  ∃ earlier detail, qs = earlier ++ [.diagnose ("Error: require.js: " ++ detail)]

/-- The driver file has its own name. -/
theorem driver_file (m : Machine) :
    Gives (fun looked => ∀ found, looked = .ok found → found.file = driverFile)
      (m.lookUp .load driverFile) := by
  unfold Machine.lookUp
  refine Gives.after _ fun _ => .pure fun found same => ?_
  rw [Resolver.file_of_read same]
  decide

/-- A driver that is interrupted, and over, has told of its failure last. -/
theorem loadDriver_told (law : m.engine.LetsExceptionsOut) {after : Live m.engine.State}
    (trace : Interaction.Trace ((loadDriver m).run live) qs (.ok (), after))
    (hit : interrupted qs = true) : TellsDriver qs := by
  have rules := Bridge.heeds_rules law
  have serves := Bridge.natives_heed law
  unfold loadDriver at trace
  rcases trace_bind trace with
    ⟨stop, -, stopped⟩ | ⟨looked, between, first, second, rfl, before, rest⟩
  · cases stopped
  have later := Heeds.later (rules.lookUp .load driverFile) before hit
  cases looked with
  | error e => exact ((rules.diagnose _) between second _ rest later () rfl).elim
  | ok found =>
    have file := before.ends (driver_file m live) _ rfl found rfl
    rcases trace_bind rest with ⟨stop, -, stopped⟩ | ⟨_, noted, third, fourth, rfl, before, rest⟩
    · cases stopped
    have later := Heeds.later (rules.log _) before later
    rcases trace_bind rest with ⟨stop, -, stopped⟩ | ⟨outcome, _, text, last, rfl, evaluated, rest⟩
    · cases stopped
    have failed := Bridge.evaluateText_heeds law serves found.text _ text _ evaluated
    cases outcome with
    | ok _ =>
      -- nothing follows, so it is the evaluation that was interrupted
      cases rest
      rw [List.append_nil] at later
      exact absurd rfl (failed later _ rfl)
    | error fault =>
      rcases trace_bind rest with ⟨stop, -, stopped⟩ | ⟨e, _, told, nothing, rfl, reported, rest⟩
      · cases stopped
      cases rest
      obtain ⟨earlier, detail, -, rfl⟩ := trace_report reported
      have line :
          "Error: " ++ (found.file ++ ": " ++ detail) = "Error: require.js: " ++ detail := by
        rw [file, driverFile, ← String.append_assoc, ← String.append_assoc]
        rfl
      rw [line]
      exact ⟨first ++ (third ++ (text ++ earlier)), detail, by simp only [List.append_assoc,
        List.append_nil]⟩

end Invocation

/-! ## The run -/

namespace ScriptHost

open Invocation (Opens StartsNone)

variable {s : Setup} {h : Host η} {args : String} {w : World η}

/-- The requests of a run from its driver phase on, up to its entry call. -/
def driverRequests (s : Setup) (h : Host η) (args : String) (w : World η) :
    List (HostRequest × World η) :=
  ((requests s h args w).dropWhile fun asked => Invocation.precedesDriver asked.1).takeWhile
    fun asked => Invocation.precedesEntry asked.1

/-- The requests of a run from its entry call on. -/
def entryRequests (s : Setup) (h : Host η) (args : String) (w : World η) :
    List (HostRequest × World η) :=
  (requests s h args w).dropWhile fun asked => Invocation.precedesEntry asked.1

/-- The requests of the driver phase are a part of those of the run. -/
theorem map_driverRequests : (driverRequests s h args w).map Prod.fst =
    Invocation.driverPart ((requests s h args w).map Prod.fst) := by
  rw [Invocation.driverPart, List.dropWhile_map, List.takeWhile_map]
  rfl

/-- So are the requests of the entry phase. -/
theorem map_entryRequests : (entryRequests s h args w).map Prod.fst =
    Invocation.entryPart ((requests s h args w).map Prod.fst) := by
  rw [Invocation.entryPart, List.dropWhile_map]
  rfl

/-- Whether a host answers a request that it gets in a world, and does so without a panic. -/
def servesAt (s : Setup) (h : Host η) (asked : HostRequest × World η) : Bool :=
  match (World.answer (some (h.channel s)) asked.1 asked.2).1 with
  | .ok r => (asked.1.panic? r).isNone
  | .error _ => false

/-- A host serves a run: it answers every request, and does so without a panic. -/
def Serves (s : Setup) (h : Host η) (args : String) (w : World η) : Prop :=
  ∀ asked ∈ requests s h args w, servesAt s h asked = true

/-- What the work of the engine of a run asks for, the run asks for. -/
theorem mem_requests_of_session {context : s.machine.engine.State}
    (opens : Opens s (w.readings 0) context) {q : HostRequest} {next before}
    (reached : Interaction.Reaches (World.answer (some (h.channel s)))
      ((Invocation.session s.machine args).run ⟨context, none⟩) (started w) (.ask q next) before) :
    (q, before) ∈ requests s h args w := by
  have there := reached.bind (Invocation.conclusion s)
  rw [← Invocation.begun_of_opens opens] at there
  rw [requests_eq]
  exact List.mem_cons_of_mem _ (Interaction.mem_trail_iff.2 ⟨_, there⟩)

/-- A host that serves a run answers every request of the work of its engine. -/
theorem Serves.answer {context : s.machine.engine.State} (served : Serves s h args w)
    (opens : Opens s (w.readings 0) context) {q : HostRequest} {next before}
    (reached : Interaction.Reaches (World.answer (some (h.channel s)))
      ((Invocation.session s.machine args).run ⟨context, none⟩) (started w) (.ask q next) before) :
    ∃ r, (World.answer (some (h.channel s)) q before).1 = .ok r ∧ q.panic? r = none := by
  have serves := served (q, before) (mem_requests_of_session opens reached)
  unfold servesAt at serves
  split at serves
  · rename_i r answered
    exact ⟨r, answered, Option.isNone_iff_eq_none.1 serves⟩
  · cases serves

/-- The reports of what goes wrong around the work of an engine start no phase. -/
theorem startsNone_report : (∀ record, StartsNone (.log record)) ∧
    ∀ line, StartsNone (.diagnose line) := ⟨fun _ => ⟨rfl, rfl⟩, fun _ => ⟨rfl, rfl⟩⟩

/-- A run without an engine starts no phase. -/
theorem opens_or_startsNone (s : Setup) (args : String) (readings : Readings) :
    (∃ context, Opens s readings context) ∨ (Invocation.begun s args readings).Asks StartsNone := by
  obtain ⟨logs, diagnoses⟩ := startsNone_report
  rcases Invocation.begun_cases s args readings with
    ⟨context, opens, -⟩ | ⟨message, faulty⟩ | overflown
  · exact .inl ⟨context, opens⟩
  · rw [faulty]
    exact .inr ((Invocation.fatal_asks logs diagnoses _ _).bind fun _ =>
      Invocation.reportPanic_asks logs diagnoses _ _)
  · rw [overflown]
    exact .inr (Invocation.fatal_asks logs diagnoses _ _)

/-- A run that is interrupted in one of its phases has an engine. -/
theorem opens_of_interrupted (hit : interrupted ((driverRequests s h args w).map Prod.fst) = true ∨
    interrupted ((entryRequests s h args w).map Prod.fst) = true) :
    ∃ context, Opens s (w.readings 0) context := by
  refine (opens_or_startsNone s args (w.readings 0)).resolve_right fun asks => ?_
  have none : ∀ q ∈ (requests s h args w).map Prod.fst, StartsNone q := by
    rw [requests_eq, List.map_cons, List.forall_mem_cons, List.forall_mem_map]
    exact ⟨⟨rfl, rfl⟩, asks.trail⟩
  obtain ⟨driver, entry⟩ := Invocation.parts_eq_nil none
  rw [map_driverRequests, map_entryRequests, driver, entry] at hit
  rcases hit with hit | hit <;> cases hit

/-- The requests of a run with an engine are those of its work, and of what follows it. -/
theorem requests_of_session {context : s.machine.engine.State}
    (opens : Opens s (w.readings 0) context) {ended live after}
    (worked : ((Invocation.session s.machine args).run ⟨context, none⟩).drive
      (World.answer (some (h.channel s))) (started w) = (.ok (ended, live), after)) :
    (requests s h args w).map Prod.fst =
      .readings :: (((Invocation.session s.machine args).run ⟨context, none⟩).trail
          (World.answer (some (h.channel s))) (started w)).map Prod.fst ++
        ((Invocation.conclusion s (ended, live)).trail
          (World.answer (some (h.channel s))) after).map Prod.fst := by
  rw [requests_eq, Invocation.begun_of_opens opens, Interaction.trail_bind worked]
  simp

/-- The work of an engine, on a host that serves the run, comes to an end with a result, or with a
process that goes no further. -/
theorem Serves.session_ends {context : s.machine.engine.State} (served : Serves s h args w)
    (opens : Opens s (w.readings 0) context) :
    ∃ ended live after,
      ((Invocation.session s.machine args).run ⟨context, none⟩).drive
          (World.answer (some (h.channel s))) (started w) = (.ok (ended, live), after) ∧
        (ended = .error .hung ∨ ended = .error .crashed ∨ ∃ result, ended = .ok result) := by
  rcases driven : ((Invocation.session s.machine args).run ⟨context, none⟩).drive
      (World.answer (some (h.channel s))) (started w) with ⟨e | ⟨ended, live⟩, after⟩
  · obtain ⟨q, next, before, reached, gaveUp⟩ := Interaction.drive_eq_error_iff.1 driven
    obtain ⟨r, answered, -⟩ := served.answer opens reached
    rw [gaveUp] at answered
    cases answered
  · have own := (Invocation.session_attempted s.machine args _).of_drive driven
    have still := (Invocation.session_quiet s.machine args _ rfl).of_drive
      (fun q next before r reached answered => by
        obtain ⟨r', answered', safe⟩ := served.answer opens reached
        cases answered.symm.trans answered'
        exact safe) driven
    refine ⟨ended, live, after, driven, ?_⟩
    -- nothing thrown leaves the bridge, and no panic comes from the host
    rcases ended with (v | p | _ | _) | result
    · exact own.elim
    · exact absurd rfl (still.still p)
    · exact .inl rfl
    · exact .inr (.inl rfl)
    · exact .inr (.inr ⟨result, rfl⟩)

/-- What a run asks for in its phases is what the work of its engine asks for in them. -/
theorem parts_of_session {context : s.machine.engine.State}
    (opens : Opens s (w.readings 0) context) {ended live after}
    (worked : ((Invocation.session s.machine args).run ⟨context, none⟩).drive
      (World.answer (some (h.channel s))) (started w) = (.ok (ended, live), after))
    (own : ended = .error .hung ∨ ended = .error .crashed ∨ ∃ result, ended = .ok result) :
    ∃ qs, Interaction.Trace ((Invocation.session s.machine args).run ⟨context, none⟩) qs
        (ended, live) ∧
      (driverRequests s h args w).map Prod.fst = Invocation.driverPart qs ∧
      (entryRequests s h args w).map Prod.fst = Invocation.entryPart qs := by
  have trace := Interaction.Trace.of_drive worked
  have phases := Invocation.session_phases trace
  refine ⟨_, trace, ?_⟩
  rw [map_driverRequests, map_entryRequests, requests_of_session opens worked]
  have reads : ∀ q ∈ [HostRequest.readings], StartsNone q := by
    rintro q mem
    rw [List.mem_singleton.1 mem]
    exact ⟨rfl, rfl⟩
  have reported :=
    Invocation.conclusion_asks startsNone_report.1 startsNone_report.2 s (ended, live)
  rcases own with rfl | rfl | ⟨message | result, rfl⟩
  case inr.inr.error =>
    -- what is reported after the work starts no phase, and the work has started none
    cases phases with
    | unprepared none =>
      rw [(Invocation.parts_eq_nil none).1, (Invocation.parts_eq_nil none).2]
      exact Invocation.parts_eq_nil (List.forall_mem_append.2
        ⟨List.forall_mem_append.2 ⟨reads, none⟩, List.forall_mem_map.2 reported.trail⟩)
    | driver same => cases same
    | @entry _ _ result _ _ same => rcases result <;> cases same
  all_goals
    rw [show (Invocation.conclusion s _).trail (World.answer (some (h.channel s))) after = []
        from rfl,
      List.map_nil, List.append_nil]
    exact Invocation.parts_append reads _

/-- A run that is interrupted during its entry call does not succeed, unless something is
intercepted afterwards. -/
theorem entry_interrupted_fails (law : s.machine.engine.LetsExceptionsOut)
    (hit : interrupted ((entryRequests s h args w).map Prod.fst) = true) :
    (run s (some (h.channel s)) args w).1 ≠ .finished (.ok ()) := by
  intro succeeded
  obtain ⟨-, context, live, after, opens, worked⟩ := session_of_succeeds succeeded
  obtain ⟨qs, trace, -, entry⟩ := parts_of_session opens worked (.inr (.inr ⟨_, rfl⟩))
  rw [entry] at hit
  exact Invocation.session_heeds law trace hit rfl

/-- On a host that serves the run, a run that is interrupted during its entry call, with nothing
intercepted afterwards, returns a failed evaluation, if the process goes on. -/
theorem Serves.entry_interrupted (served : Serves s h args w)
    (law : s.machine.engine.LetsExceptionsOut) {Late : s.machine.engine.State → Prop}
    (ends : s.machine.engine.EndsOnceLate Late) (unlinked : w.scripts.isLinked = false)
    (hit : interrupted ((entryRequests s h args w).map Prod.fst) = true) :
    (∃ detail, (run s (some (h.channel s)) args w).1 =
        .finished (.error (.evaluation ("r2dec_main: " ++ detail)))) ∨
      (run s (some (h.channel s)) args w).1 = .halted .crashed := by
  have failed := entry_interrupted_fails law hit
  obtain ⟨context, opens⟩ := opens_of_interrupted (.inr hit)
  obtain ⟨ended, live, after, worked, own⟩ := served.session_ends opens
  obtain ⟨qs, trace, -, entry⟩ := parts_of_session opens worked own
  rw [entry] at hit
  rw [run_of_unlinked s _ args unlinked, finish_fst, drive,
    drive_reported_of_session (v := w.withLinkage .linked) opens worked] at failed ⊢
  cases Invocation.session_phases trace with
  | unprepared none =>
    rw [(Invocation.parts_eq_nil none).2] at hit
    cases hit
  | driver _ _ whole =>
    rw [whole] at hit
    cases hit
  | @entry _ _ result _ _ same _ _ rest call =>
    rw [rest] at hit
    dsimp only at same call
    subst same
    have finished := (Invocation.callEntry_endsOnceLate ends args _ false _ _
      (fun on => absurd on Bool.false_ne_true) call hit).2
    rcases own with ended | ended | ⟨verdict, ended⟩ <;> rcases result with stop | e | _
    all_goals cases ended
    · exact absurd rfl finished
    · exact .inr rfl
    · have tells := Invocation.callEntry_tells s.machine args _ _ _ call _ rfl
      rcases call.ends (Invocation.callEntry_gives s.machine args _) _ rfl with
        never | ⟨detail, same⟩
      · cases never
      · cases same
        obtain ⟨rest, rfl⟩ := tells.detail
        exact .inl ⟨rest, rfl⟩
    · exact absurd rfl failed

/-- On a host that serves the run, a driver phase that is interrupted, with nothing intercepted
afterwards, ends with a line that tells of the driver, and the run goes on to the entry call, if the
process goes on. -/
theorem Serves.driver_interrupted (served : Serves s h args w)
    (law : s.machine.engine.LetsExceptionsOut) {Late : s.machine.engine.State → Prop}
    (ends : s.machine.engine.EndsOnceLate Late) (unlinked : w.scripts.isLinked = false)
    (hit : interrupted ((driverRequests s h args w).map Prod.fst) = true) :
    (run s (some (h.channel s)) args w).1 = .halted .crashed ∨
      entryRequests s h args w ≠ [] ∧ ∃ earlier detail state, handed (driverRequests s h args w) =
        earlier ++ [.print ("Error: require.js: " ++ detail ++ "\n") state] := by
  obtain ⟨context, opens⟩ := opens_of_interrupted (.inl hit)
  obtain ⟨ended, live, after, worked, own⟩ := served.session_ends opens
  obtain ⟨qs, trace, driver, entry⟩ := parts_of_session opens worked own
  rw [driver] at hit
  cases Invocation.session_phases trace with
  | unprepared none =>
    rw [(Invocation.parts_eq_nil none).1] at hit
    cases hit
  | driver same part _ driven =>
    rw [part] at hit
    dsimp only at same
    subst same
    have finished := (Invocation.loadDriver_endsOnceLate ends _ false _ _
      (fun on => absurd on Bool.false_ne_true) driven hit).2
    rcases own with stopped | stopped | ⟨result, stopped⟩ <;> cases stopped
    · exact absurd rfl finished
    · refine .inl ?_
      rw [run_of_unlinked s _ args unlinked, finish_fst, drive,
        drive_reported_of_session (v := w.withLinkage .linked) opens worked]
      rfl
  | @entry _ _ _ driven _ _ part driverTrace rest =>
    rw [part] at hit
    refine .inr ⟨fun nothing => ?_, ?_⟩
    · rw [nothing, rest] at entry
      cases entry
    · obtain ⟨earlier, detail, rfl⟩ := Invocation.loadDriver_told law driverTrace hit
      have whole : (driverRequests s h args w).map Prod.fst =
          (.enter .nativesRegistered :: earlier) ++ [.diagnose ("Error: require.js: " ++ detail)] :=
        driver.trans part
      obtain ⟨before, state, last⟩ := handed_of_last whole
      exact ⟨before, detail, state, last⟩

/-- The deadline ends the entry call. Around an engine that lets exceptions out and keeps its
deadline, a run that is interrupted during the entry call is no success, on any host, unless
something in the engine intercepts an exception afterwards. On a host that serves the run it returns
a failed evaluation, and a driver phase that is interrupted ends with a line that tells so, and the
run goes on, unless the engine takes the process down. The run then succeeds if the entry expression
is evaluated to its end, and not otherwise. -/
theorem deadline_ends_entry (s : Setup) (h : Host η) (args : String) (w : World η)
    (law : s.machine.engine.LetsExceptionsOut) {Late : s.machine.engine.State → Prop}
    (ends : s.machine.engine.EndsOnceLate Late) (unlinked : w.scripts.isLinked = false) :
    (interrupted ((entryRequests s h args w).map Prod.fst) = true →
        (run s (some (h.channel s)) args w).1 ≠ .finished (.ok ())) ∧
      (Serves s h args w →
        (interrupted ((entryRequests s h args w).map Prod.fst) = true →
          (∃ detail, (run s (some (h.channel s)) args w).1 =
            .finished (.error (.evaluation ("r2dec_main: " ++ detail)))) ∨
          (run s (some (h.channel s)) args w).1 = .halted .crashed) ∧
        (interrupted ((driverRequests s h args w).map Prod.fst) = true →
          (run s (some (h.channel s)) args w).1 = .halted .crashed ∨
          entryRequests s h args w ≠ [] ∧
            ∃ earlier detail state, handed (driverRequests s h args w) =
              earlier ++ [.print ("Error: require.js: " ++ detail ++ "\n") state])) ∧
      ((run s (some (h.channel s)) args w).1 = .finished (.ok ()) ↔
        ∃ live after, EntryEnds s h args w (.ok ()) live after) :=
  ⟨entry_interrupted_fails law,
    fun served => ⟨served.entry_interrupted law ends unlinked,
      served.driver_interrupted law ends unlinked⟩, succeeds_iff⟩

/-- A package with a driver and one module, on which a deadline is set. -/
def timedPackage (driver module : String) : Setup where
  machine := jsonInterpreter.machine
    { base := .fixed "/"
      files :=
        { members :=
          [("require.js", .file driver.toUTF8.toList), ("m.js", .file module.toUTF8.toList)] } }
    { timeout := some 150 }

/-- A world in which the deadline of the package passes before the third look at the clock. -/
def slowWorld (state : η) : World η where
  host := state
  readings _ := { delays := fun n => if n = 2 then 150 else 0 }

/-- A driver that runs for ever once it has defined an entry function, which needs a module that
runs for ever. -/
def endlessTwice : Setup :=
  timedPackage "[[\"def\",\"r2dec_main\",[[\"do\",[\"require\",\"m\"]]]],[\"loop\"]]" "[[\"loop\"]]"

/-- Where both phases are interrupted, the interruption of the driver is printed, and that of the
module fails the run. -/
theorem deadline_ends_entry_endless :
    endlessTwice.machine.engine.LetsExceptionsOut ∧
      endlessTwice.machine.engine.EndsOnceLate Engine.IsLate ∧
      (slowWorld ()).scripts.isLinked = false ∧
      Serves endlessTwice calmHost "" (slowWorld ()) ∧
      interrupted ((driverRequests endlessTwice calmHost "" (slowWorld ())).map Prod.fst) =
        true ∧
      interrupted ((entryRequests endlessTwice calmHost "" (slowWorld ())).map Prod.fst) =
        true ∧
      (run endlessTwice (some (calmHost.channel endlessTwice)) "" (slowWorld ())).1 ≠
        .halted .crashed ∧
      (∃ earlier detail state,
        handed (driverRequests endlessTwice calmHost "" (slowWorld ())) =
          earlier ++ [.print ("Error: require.js: " ++ detail ++ "\n") state]) ∧
      ∃ detail, (run endlessTwice (some (calmHost.channel endlessTwice)) "" (slowWorld ())).1 =
        .finished (.error (.evaluation ("r2dec_main: " ++ detail))) := by
  have law : endlessTwice.machine.engine.LetsExceptionsOut :=
    jsonInterpreter.engine_letsExceptionsOut
  have ends : endlessTwice.machine.engine.EndsOnceLate Engine.IsLate :=
    jsonInterpreter.engine_endsOnceLate (by decide)
  have evaluated : (requests endlessTwice calmHost "" (slowWorld ())).all
        (servesAt endlessTwice calmHost) = true ∧
      interrupted ((driverRequests endlessTwice calmHost "" (slowWorld ())).map Prod.fst) =
        true ∧
      interrupted ((entryRequests endlessTwice calmHost "" (slowWorld ())).map Prod.fst) =
        true ∧
      (run endlessTwice (some (calmHost.channel endlessTwice)) "" (slowWorld ())).1 ≠
        .halted .crashed := by
    decide +kernel
  obtain ⟨all, driver, entry, goes⟩ := evaluated
  have served : Serves endlessTwice calmHost "" (slowWorld ()) := List.all_eq_true.1 all
  obtain ⟨-, phases, -⟩ :=
    deadline_ends_entry endlessTwice calmHost "" (slowWorld ()) law ends rfl
  obtain ⟨fails, told⟩ := phases served
  exact ⟨law, ends, rfl, served, driver, entry, goes, ((told driver).resolve_left goes).2,
    (fails entry).resolve_right goes⟩

/-- A driver that runs for ever once it has defined an entry function. -/
def endlessDriver : Setup :=
  timedPackage "[[\"def\",\"r2dec_main\",[[\"log\",\"main\"]]],[\"loop\"]]" ""

/-- An entry function with a `try` around the module that it needs, which runs for ever. -/
def caughtModule : Setup :=
  timedPackage ("[[\"def\",\"r2dec_main\",[[\"try\",[[\"do\",[\"require\",\"m\"]]]," ++
    "[[\"log\",\"main\"]]]]]]") "[[\"loop\"]]"

/-- An entry function that runs for ever. -/
def endlessEntry : Setup := timedPackage "[[\"def\",\"r2dec_main\",[[\"loop\"]]]]" ""

/-- A host that panics at the first text that it is to print. -/
def fragileHost : Host Bool where
  command _ _ shown := .done (.ok "", shown)
  print _ _ shown := .done (if shown then .ok () else .error ⟨some "gone"⟩, true)
  preferences _ := {}
  setPreferences _ shown := shown
  addCompletion _ shown := shown

/-- Not every run that the deadline interrupts returns a failed evaluation. If the driver is
interrupted, or a module inside a `try`, the run can go on and succeed, and if the host panics as it
prints the interruption, the run returns the panic. -/
theorem interrupted_runs_without_failed_evaluation :
    (endlessDriver.machine.limits.timeout = some 150 ∧
      Serves endlessDriver calmHost "a" (slowWorld ()) ∧
      .event .interrupted ∈
        (requests endlessDriver calmHost "a" (slowWorld ())).map Prod.fst ∧
      (run endlessDriver (some (calmHost.channel endlessDriver)) "a" (slowWorld ())).1 =
        .finished (.ok ())) ∧
    (caughtModule.machine.limits.timeout = some 150 ∧
      Serves caughtModule calmHost "a" (slowWorld ()) ∧
      .event .interrupted ∈
        (requests caughtModule calmHost "a" (slowWorld ())).map Prod.fst ∧
      (run caughtModule (some (calmHost.channel caughtModule)) "a" (slowWorld ())).1 =
        .finished (.ok ())) ∧
    (endlessEntry.machine.limits.timeout = some 150 ∧
      .event .interrupted ∈
        (requests endlessEntry fragileHost "a" (slowWorld false)).map Prod.fst ∧
      (run endlessEntry (some (fragileHost.channel endlessEntry)) "a" (slowWorld false)).1 =
        .finished (.error (.fatal "gone"))) := by
  have driver : (requests endlessDriver calmHost "a" (slowWorld ())).all
        (servesAt endlessDriver calmHost) = true ∧
      .event .interrupted ∈
        (requests endlessDriver calmHost "a" (slowWorld ())).map Prod.fst ∧
      (run endlessDriver (some (calmHost.channel endlessDriver)) "a" (slowWorld ())).1 =
        .finished (.ok ()) := by
    decide +kernel
  have caught : (requests caughtModule calmHost "a" (slowWorld ())).all
        (servesAt caughtModule calmHost) = true ∧
      .event .interrupted ∈
        (requests caughtModule calmHost "a" (slowWorld ())).map Prod.fst ∧
      (run caughtModule (some (calmHost.channel caughtModule)) "a" (slowWorld ())).1 =
        .finished (.ok ()) := by
    decide +kernel
  refine ⟨⟨rfl, List.all_eq_true.1 driver.1, driver.2⟩,
    ⟨rfl, List.all_eq_true.1 caught.1, caught.2⟩,
    rfl, ?_⟩
  decide +kernel

end ScriptHost

end DecompilerBridge
