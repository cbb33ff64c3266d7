import DecompilerBridge.Proofs.Run.Deadline
import DecompilerBridge.Proofs.Run.States

/-!
# The driver and the entry call

What becomes of a run around its driver file, whatever the engine. A file that is missing or fails
is told to the host in one line, and the entry call follows as if the file had ended well
(`ScriptHost.PassesDriver`).

* Up to the end of the file the host is handed the texts of the driver, and one line if it fails
  (`Invocation.loadDriver_ends`), which names the file (`DriverEnds.names`).
* The entry expression is then evaluated, once, and how it ends decides the outcome
  (`Invocation.callEntry_decides`).
-/

set_option autoImplicit false

namespace DecompilerBridge

variable {η : Type}

/-- The message of a failed lookup starts with the name of the file. -/
theorem Resolver.message_of_read {r : Resolver} {kind : ModuleKind} {name : String}
    {e : ResolveError} (looked : (r.read kind name).1 = .error e) :
    ∃ rest, e.message = "'" ++ kind.fileName name ++ rest := by
  have named : ∀ path, ∃ rest, (ResolveError.notFound (kind.fileName name) path).message =
      "'" ++ kind.fileName name ++ rest := fun _ => ⟨"' not found", rfl⟩
  unfold Resolver.read Resolver.path at looked
  cases dir : r.directory with
  | none =>
    rw [dir] at looked
    cases looked
    refine ⟨"' not found (R2DEC_HOME is unset and there is no user data directory)", ?_⟩
    rfl
  | some dir' =>
    rw [dir] at looked
    dsimp only at looked
    split at looked
    · cases looked
      exact named _
    · cases looked
      exact named _
    · cases looked

namespace Invocation

open Bridge (Gives)

variable {channel : Option (HostChannel η)} {m : Machine} {live loaded : Live m.engine.State}
  {v before : World η}

/-! ## The driver file -/

/-- What is told of the evaluation of a text: nothing, or the description of its failure. -/
def told (m : Machine) (text : String) : m.Work (Option String) := do
  match ← m.engine.evaluateText m.natives text with
  | .ok () => pure none
  | .error fault => some <$> m.engine.describe m.natives fault

/-- What is left to do once the driver file has been looked up. -/
def loadFound (m : Machine) : Except ResolveError Module → m.Work Unit
  | .error e => Bridge.diagnose ("Error: " ++ e.message ++ ".")
  | .ok found => do
    Bridge.log (.debug ("evaluating " ++ found.path))
    let detail ← told m found.text
    detail.elim (pure ()) fun detail => do
      let _ ← printed m (found.file ++ ": " ++ detail)
      pure ()

/-- The driver file is looked up, with notes of the lookup, and then evaluated. -/
theorem loadDriver_eq (m : Machine) :
    loadDriver m = Bridge.logAll (m.resolver.read .load driverFile).2 >>= fun _ =>
      loadFound m (m.resolver.read .load driverFile).1 := by
  unfold loadDriver Machine.lookUp
  rw [bind_assoc]
  refine congrArg (Bridge.logAll _ >>= ·) (funext fun _ => ?_)
  rw [pure_bind]
  cases (m.resolver.read .load driverFile).1 with
  | error e => rfl
  | ok found =>
    refine congrArg (Bridge.log _ >>= ·) (funext fun _ => ?_)
    show _ = told m found.text >>= _
    rw [told, bind_assoc]
    refine congrArg (_ >>= ·) (funext fun ended => ?_)
    cases ended with
    | ok _ => rfl
    | error fault =>
      dsimp only
      rw [report_eq, bind_assoc, map_eq_pure_bind, bind_assoc]
      rfl

/-- A driver file that is evaluated to an end hands its own texts to the host, and if its evaluation
fails, one line that tells so. -/
theorem loadFound_ends {found : Module} (file : found.file = driverFile)
    (driven : ((loadFound m (.ok found)).run live).drive (World.answer channel) v =
      (.ok (.ok (), loaded), before)) :
    ∃ detail start there, start.host = v.host ∧ start.scripts = v.scripts ∧
      ((told m found.text).run live).drive (World.answer channel) start =
        (.ok (.ok detail, loaded), there) ∧
      handed (((loadFound m (.ok found)).run live).trail (World.answer channel) v) =
        handed (((told m found.text).run live).trail (World.answer channel) start) ++
        (detail.map fun text => Received.print ("Error: require.js: " ++ text ++ "\n")
          there.scripts.state).toList := by
  let record : LogRecord := .debug ("evaluating " ++ found.path)
  let line (detail : Option String) : m.Work Unit := detail.elim (pure ()) fun detail => do
    let _ ← printed m (found.file ++ ": " ++ detail)
    pure ()
  have later :
      ((told m found.text >>= line).run live).drive (World.answer channel) (v.note record) =
      (.ok (.ok (), loaded), before) := driven
  have noted : ((loadFound m (.ok found)).run live).trail (World.answer channel) v =
      [(.log record, v)] ++
        ((told m found.text >>= line).run live).trail (World.answer channel) (v.note record) := rfl
  have quiet : handed [(HostRequest.log record, v)] = [] := rfl
  obtain ⟨detail, between, there, evaluated, ended⟩ := Bridge.drive_bind_eq_ok_iff.1 later
  obtain ⟨-, parts⟩ := Bridge.drive_bind_of_value evaluated line
  obtain ⟨rfl, tells⟩ : loaded = between ∧
      handed (((line detail).run between).trail (World.answer channel) there) =
        (detail.map fun text => Received.print ("Error: require.js: " ++ text ++ "\n")
          there.scripts.state).toList := by
    cases detail with
    | none =>
      cases ended
      exact ⟨rfl, rfl⟩
    | some detail =>
      obtain ⟨_, last, _, prints, nothing⟩ := Bridge.drive_bind_eq_ok_iff.1 ended
      obtain ⟨-, split⟩ := Bridge.drive_bind_of_value prints fun _ => (pure () : m.Work Unit)
      obtain rfl := printed_ends prints
      cases nothing
      have shown : "Error: " ++ (driverFile ++ ": " ++ detail) ++ "\n" =
          "Error: require.js: " ++ detail ++ "\n" := by
        simp [driverFile, ← String.append_assoc]
      refine ⟨rfl, ?_⟩
      rw [show ((line (some detail)).run _).trail _ there = _ from split, handed_append,
        printed_handed, file, shown]
      rfl
  refine ⟨detail, v.note record, there, rfl, rfl, evaluated, ?_⟩
  rw [noted, handed_append, quiet, List.nil_append, parts, handed_append, tells]

/-- How the driver file of a run ends: in which state of the engine, with which texts of its own
handed to the host, and with which line that tells of its failure. A file that cannot be had leaves
the engine as it is, and of any other it is the evaluation that tells. -/
inductive DriverEnds (channel : Option (HostChannel η)) (m : Machine) (ready : Live m.engine.State)
    (start : World η) : Live m.engine.State → List Received → Option String → Prop where
  | unread {e : ResolveError} : (m.resolver.read .load driverFile).1 = .error e →
      DriverEnds channel m ready start ready [] (some ("Error: " ++ e.message ++ "."))
  | evaluated {found : Module} {detail : Option String} {loaded : Live m.engine.State}
      {there : World η} : (m.resolver.read .load driverFile).1 = .ok found →
      ((told m found.text).run ready).drive (World.answer channel) start =
        (.ok (.ok detail, loaded), there) →
      DriverEnds channel m ready start loaded
        (handed (((told m found.text).run ready).trail (World.answer channel) start))
        (detail.map ("Error: require.js: " ++ ·))

/-- The line names the driver file. -/
theorem DriverEnds.names {start : World η} {own : List Received} {line : Option String}
    (ends : DriverEnds channel m live start loaded own line) {text : String} (tells : text ∈ line) :
    ∃ lead rest, text = lead ++ driverFile ++ rest := by
  cases ends with
  | unread looked =>
    cases tells
    obtain ⟨rest, message⟩ := Resolver.message_of_read looked
    refine ⟨"Error: '", rest ++ ".", ?_⟩
    rw [message]
    simp [driverFile, ModuleKind.fileName, ← String.append_assoc]
  | evaluated =>
    obtain ⟨detail, -, rfl⟩ := Option.map_eq_some_iff.1 tells
    refine ⟨"Error: ", ": " ++ detail, ?_⟩
    simp [driverFile, ← String.append_assoc]

/-- A file that cannot be had leaves the engine as it is, and is told of. -/
theorem DriverEnds.of_unread {start : World η} {own : List Received} {line : Option String}
    {e : ResolveError} (looked : (m.resolver.read .load driverFile).1 = .error e)
    (ends : DriverEnds channel m live start loaded own line) :
    loaded = live ∧ own = [] ∧ line = some ("Error: " ++ e.message ++ ".") := by
  cases ends with
  | unread other =>
    cases looked.symm.trans other
    exact ⟨rfl, rfl, rfl⟩
  | evaluated found => cases looked.symm.trans found

/-- Telling of a driver changes no state of the scripts. -/
theorem told_steady (m : Machine) (text : String) :
    Bridge.Asks HostRequest.Steady (told m text) := by
  have rules := Bridge.asks_rules steady_of_isService m.engine
  have serves := Bridge.natives_ask steady_of_isService m
  refine rules.bind (rules.evaluateText serves .attempt text) fun ended => ?_
  cases ended with
  | ok _ => exact rules.pure _
  | error fault => exact rules.map _ (rules.describe serves .attempt fault)

/-- What a driver file hands to the host that comes to an end: the texts of the driver itself, and
then the line that tells of its failure. -/
theorem loadDriver_ends (orderly : ∀ p ∈ channel, p.Orderly) (linked : v.scripts.linkage = .linked)
    (driven : ((loadDriver m).run live).drive (World.answer channel) v =
      (.ok (.ok (), loaded), before)) :
    ∃ start own line, start.host = v.host ∧ start.scripts = v.scripts ∧
      DriverEnds channel m live start loaded own line ∧
      handed (((loadDriver m).run live).trail (World.answer channel) v) =
        own ++ (line.map fun text => Received.print (text ++ "\n") v.scripts.state).toList := by
  obtain ⟨logged, quiet⟩ :=
    Bridge.logAll_drive channel (m.resolver.read .load driverFile).2 live v
  obtain ⟨found, parts⟩ := Bridge.drive_bind_of_value logged
    fun _ => loadFound m (m.resolver.read .load driverFile).1
  rw [← loadDriver_eq] at found parts
  rw [found] at driven
  rw [parts, handed_append, quiet, List.nil_append]
  cases looked : (m.resolver.read .load driverFile).1 with
  | error e =>
    rw [looked] at driven
    obtain rfl := Bridge.diagnose_ends driven
    refine ⟨_, [], _, rfl, rfl, .unread looked, ?_⟩
    rw [show loadFound m (.error e) = Bridge.diagnose ("Error: " ++ e.message ++ ".") from rfl,
      Bridge.diagnose_handed]
    rfl
  | ok found =>
    rw [looked] at driven
    obtain ⟨detail, start, there, host, scripts, evaluated, texts⟩ :=
      loadFound_ends (Resolver.file_of_read looked) driven
    have steady : there.scripts = start.scripts :=
      World.reached_steady orderly (Interaction.drive_eq_ok_iff.1 evaluated)
        (told_steady m found.text _) (scripts ▸ linked)
    refine ⟨start, _, _, host, scripts, .evaluated looked evaluated, ?_⟩
    rw [texts, steady, scripts, Option.map_map]
    rfl

/-! ## The entry call -/

/-- A verdict on an entry expression that has failed names the entry function. -/
theorem verdict_names (m : Machine) {ending : Bridge.Ending m.engine.Value Unit}
    (failed : ending ≠ .value ()) :
    Gives (fun result => ∃ detail, result = .error (.evaluation ("r2dec_main: " ++ detail)))
      (verdict m ending) := by
  have lead : Entry.functionName ++ ": " = "r2dec_main: " := by decide
  cases ending with
  | value a => exact absurd rfl failed
  | thrown v =>
    have shown : Gives (fun e => ∃ detail, e = ScriptError.evaluation ("r2dec_main: " ++ detail))
        (report m Entry.functionName (.exception v)) :=
      Gives.after _ fun detail => Gives.after _ fun _ => Gives.after _ fun _ =>
        .pure ⟨detail, by rw [lead]⟩
    refine shown.map ?_
    rintro _ ⟨detail, rfl⟩
    exact ⟨detail, rfl⟩

/-- How the entry expression, evaluated in an engine and a world, decides the outcome of a run, and
what is asked for after it. -/
inductive Decides (channel : Option (HostChannel η)) (m : Machine) (args : String)
    (loaded : Live m.engine.State) (before : World η) :
    List (HostRequest × World η) → Outcome (Except ScriptError Unit) → Prop where
  | value {called : Live m.engine.State} {there : World η} :
      ((entry m args).run loaded).drive (World.answer channel) before =
        (.ok (.ok (), called), there) →
      Decides channel m args loaded before [(.enter .entryInvoked, there)] (.finished (.ok ()))
  | failure {ending : Bridge.Ending m.engine.Value Unit} {called last : Live m.engine.State}
      {there after : World η} {detail : String} : ending ≠ .value () →
      ((Bridge.attempt (entry m args)).run loaded).drive (World.answer channel) before =
        (.ok (.ok ending, called), there) →
      ((verdict m ending).run called).drive (World.answer channel) (there.enter .entryInvoked) =
        (.ok (.ok (.error (.evaluation ("r2dec_main: " ++ detail))), last), after) →
      Decides channel m args loaded before
        ((.enter .entryInvoked, there) :: ((verdict m ending).run called).trail
          (World.answer channel) (there.enter .entryInvoked))
        (.finished (.error (.evaluation ("r2dec_main: " ++ detail))))
  | endless {called : Live m.engine.State} {there : World η} :
      ((entry m args).run loaded).drive (World.answer channel) before =
        (.ok (.error .hung, called), there) →
      Decides channel m args loaded before [] (.halted .hung)
  | endlessReport {ending : Bridge.Ending m.engine.Value Unit} {called last : Live m.engine.State}
      {there after : World η} :
      ((Bridge.attempt (entry m args)).run loaded).drive (World.answer channel) before =
        (.ok (.ok ending, called), there) →
      ((verdict m ending).run called).drive (World.answer channel) (there.enter .entryInvoked) =
        (.ok (.error .hung, last), after) →
      Decides channel m args loaded before
        ((.enter .entryInvoked, there) :: ((verdict m ending).run called).trail
          (World.answer channel) (there.enter .entryInvoked))
        (.halted .hung)

/-- An entry expression that is evaluated to its end is a success, and nothing follows it. -/
theorem Decides.of_value {args : String} {called : Live m.engine.State} {there : World η}
    {rest : List (HostRequest × World η)} {outcome : Outcome (Except ScriptError Unit)}
    (decides : Decides channel m args loaded before rest outcome)
    (value : ((entry m args).run loaded).drive (World.answer channel) before =
      (.ok (.ok (), called), there)) :
    rest = [(.enter .entryInvoked, there)] ∧ outcome = .finished (.ok ()) := by
  have attempted := Bridge.drive_attempt_eq_value_iff.2 value
  cases decides with
  | value given =>
    cases value.symm.trans given
    exact ⟨rfl, rfl⟩
  | failure failed given =>
    cases attempted.symm.trans given
    exact absurd rfl failed
  | endless hung => cases value.symm.trans hung
  | endlessReport given hung =>
    cases attempted.symm.trans given
    cases hung

/-- An entry call that ends or runs for ever evaluates the entry expression once, and that decides.
-/
theorem callEntry_decides {args : String} {last : Live m.engine.State} {after : World η}
    {ended : Except (Stop m.engine.Value) (Except ScriptError Unit)}
    {outcome : Outcome (Except ScriptError Unit)}
    (driven : ((callEntry m args).run loaded).drive (World.answer channel) before =
      (.ok (ended, last), after))
    (ends : ended = .error .hung ∧ outcome = .halted .hung ∨
      ∃ result, ended = .ok result ∧ outcome = .finished result) :
    ∃ rest, ((callEntry m args).run loaded).trail (World.answer channel) before =
        ((entry m args).run loaded).trail (World.answer channel) before ++ rest ∧
      Decides channel m args loaded before rest outcome := by
  let answer := World.answer channel
  let next (ending : Bridge.Ending m.engine.Value Unit) : m.Work (Except ScriptError Unit) :=
    Bridge.ask (.enter .entryInvoked) >>= fun _ => verdict m ending
  rw [callEntry_eq] at driven ⊢
  rcases attempted : ((Bridge.attempt (entry m args)).run loaded).drive answer before with
    ⟨e | ⟨stop | ending, called⟩, there⟩
  · rw [Bridge.run_bind, Interaction.drive_bind, attempted] at driven
    cases driven
  · -- of what stops an attempt, running for ever alone is an end of the entry call
    obtain ⟨-, same⟩ := Bridge.drive_bind_of_stop (fun a between v given => by
      rw [attempted] at given
      cases given) next
    rw [Bridge.run_bind, Interaction.drive_bind, attempted] at driven
    cases driven
    rcases ends with ⟨stopped, rfl⟩ | ⟨result, given, -⟩
    · cases stopped
      refine ⟨[], ?_, .endless (Bridge.hung_of_attempt attempted)⟩
      rw [same, Bridge.trail_attempt, List.append_nil]
    · cases given
  · obtain ⟨goesOn, split⟩ := Bridge.drive_bind_of_value attempted next
    rw [goesOn] at driven
    change ((verdict m ending).run called).drive answer (there.enter .entryInvoked) = _ at driven
    rw [split, Bridge.trail_attempt]
    refine ⟨_, rfl, ?_⟩
    rcases ends with ⟨rfl, rfl⟩ | ⟨result, rfl, rfl⟩
    · exact .endlessReport attempted driven
    · by_cases whole : ending = .value ()
      · subst whole
        cases driven
        exact .value (Bridge.drive_attempt_eq_value_iff.1 attempted)
      · obtain ⟨detail, rfl⟩ := (verdict_names m whole called).of_drive driven result rfl
        exact .failure whole attempted driven

end Invocation

/-! ## The run -/

namespace ScriptHost

open Invocation (Opens StartsNone)

variable {s : Setup} {h : Host η} {args : String} {w : World η} {context : s.machine.engine.State}

/-- Whether the driver file of a run runs for ever, given the engine of the run. -/
def driverHangs (s : Setup) (context : s.machine.engine.State) (h : Host η) (w : World η) : Bool :=
  match (((Invocation.opening s.machine).run ⟨context, none⟩).drive
      (World.answer (some (h.channel s))) (started w)).1 with
  | .ok (.error .hung, _) => true
  | _ => false

/-- What becomes of a run whose driver file has come to an end, well or not: the engine with its
natives, the engine that the file has left, the world in which the entry expression is evaluated,
the texts that the file handed to the host, the line that tells of its failure, and what is asked
for after the entry expression. -/
structure PassesDriver (s : Setup) (h : Host η) (args : String) (w : World η)
    (ready loaded : Live s.machine.engine.State) (before : World η) (own : List Received)
    (line : Option String) (rest : List (HostRequest × World η)) : Prop where
  /-- The file has ended, in the engine of the run. -/
  ends : ∃ start, start.host = w.host ∧ start.scripts.state = .nativesRegistered ∧
    Invocation.DriverEnds (some (h.channel s)) s.machine ready start loaded own line
  /-- A failure is told in one line, after everything that the file hands to the host. -/
  driver : handed (driverRequests s h args w) =
    own ++ (line.map fun text => Received.print (text ++ "\n") .nativesRegistered).toList
  names : ∀ text ∈ line, ∃ lead tail, text = lead ++ driverFile ++ tail
  /-- The entry expression is evaluated in what the file has left, and nothing else is. -/
  entry : ∃ mid, before = mid.enter .driverLoaded ∧ entryRequests s h args w =
    (.enter .driverLoaded, mid) :: (((Invocation.entry s.machine args).run loaded).trail
      (World.answer (some (h.channel s))) before ++ rest)
  /-- It decides the outcome. -/
  decides : Invocation.Decides (some (h.channel s)) s.machine args loaded before rest
    (run s (some (h.channel s)) args w).1
  received : received s h args w =
    handed (driverRequests s h args w) ++ handed (entryRequests s h args w)

/-- A free host that serves a run receives what the run asks of it. -/
theorem Serves.received (served : Serves s h args w) (free : w.borrowed = false)
    (unlinked : w.scripts.isLinked = false) :
    ScriptHost.received s h args w = handed (requests s h args w) := by
  refine (received_of_drive args free unlinked).2 ?_
  rcases driven : (Invocation.reported s args).drive (World.answer (some (h.channel s)))
      (w.withLinkage .linked) with ⟨e | outcome, after⟩
  · obtain ⟨q, next, before, reached, gaveUp⟩ := Interaction.drive_eq_error_iff.1 driven
    have serves := served (q, before) (Interaction.mem_trail_iff.2 ⟨next, reached⟩)
    rw [servesAt, gaveUp] at serves
    cases serves
  · rw [driven]
    rfl

/-- The phases of a run start where it moves to the states that start them. -/
theorem requests_split {v mid : World η} {first driven called : List (HostRequest × World η)}
    (none : ∀ asked ∈ first, StartsNone asked.1) (own : ∀ asked ∈ driven, StartsNone asked.1)
    (asked : requests s h args w = first ++ (.enter .nativesRegistered, v) ::
      (driven ++ (.enter .driverLoaded, mid) :: called)) :
    driverRequests s h args w = (.enter .nativesRegistered, v) :: driven ∧
      entryRequests s h args w = (.enter .driverLoaded, mid) :: called := by
  constructor
  · rw [driverRequests, asked, List.dropWhile_append_of_pos fun a mem => (none a mem).1]
    show (HostRequest.enter .nativesRegistered, v) :: List.takeWhile _ _ = _
    rw [List.takeWhile_append_of_pos fun a mem => (own a mem).2]
    exact congrArg _ (List.append_nil _)
  · rw [entryRequests, asked, List.dropWhile_append_of_pos fun a mem => (none a mem).2]
    show List.dropWhile _ (driven ++ _) = _
    rw [List.dropWhile_append_of_pos fun a mem => (own a mem).2]
    rfl

/-- The work of an engine whose driver file comes to an end, driven to its own end. -/
theorem session_driven {ready loaded last : Live s.machine.engine.State} {v mid after : World η}
    {ended : Except (Stop s.machine.engine.Value) (Except ScriptError Unit)}
    (prepared : ((Invocation.preparation s.machine).run ⟨context, none⟩).drive
      (World.answer (some (h.channel s))) (started w) = (.ok (.ok (.ok ()), ready), v))
    (loads : ((Invocation.loadDriver s.machine).run ready).drive (World.answer (some (h.channel s)))
      (v.enter .nativesRegistered) = (.ok (.ok (), loaded), mid))
    (called : ((Invocation.callEntry s.machine args).run loaded).drive
      (World.answer (some (h.channel s))) (mid.enter .driverLoaded) = (.ok (ended, last), after)) :
    ((Invocation.session s.machine args).run ⟨context, none⟩).drive
        (World.answer (some (h.channel s))) (started w) = (.ok (.ok <$> ended, last), after) ∧
      ((Invocation.session s.machine args).run ⟨context, none⟩).trail
          (World.answer (some (h.channel s))) (started w) =
        ((Invocation.preparation s.machine).run ⟨context, none⟩).trail
            (World.answer (some (h.channel s))) (started w) ++
          (.enter .nativesRegistered, v) ::
            (((Invocation.loadDriver s.machine).run ready).trail (World.answer (some (h.channel s)))
              (v.enter .nativesRegistered) ++
              (.enter .driverLoaded, mid) ::
                ((Invocation.callEntry s.machine args).run loaded).trail
                (World.answer (some (h.channel s))) (mid.enter .driverLoaded)) := by
  rw [Invocation.session_phases_eq]
  obtain ⟨first, firstParts⟩ := Bridge.drive_bind_of_value prepared _
  obtain ⟨second, secondParts⟩ := Bridge.drive_bind_of_value loads fun _ =>
    (Bridge.ask (.enter .driverLoaded) >>= fun _ => .ok <$> Invocation.callEntry s.machine args :
      s.machine.Work (Except String (Except ScriptError Unit)))
  have third := Bridge.drive_map (Except.ok (ε := String)) called
  refine ⟨first.trans (second.trans third), firstParts.trans ?_⟩
  refine congrArg (_ ++ (HostRequest.enter .nativesRegistered, v) :: ·) (secondParts.trans ?_)
  exact congrArg (_ ++ (HostRequest.enter .driverLoaded, mid) :: ·) (Bridge.trail_map _ _ _ _)

/-- What the entry expression asks for, the work of the engine asks for. -/
theorem reaches_of_entry {ready loaded : Live s.machine.engine.State} {v mid there : World η}
    {q : HostRequest} {next}
    (prepared : ((Invocation.preparation s.machine).run ⟨context, none⟩).drive
      (World.answer (some (h.channel s))) (started w) = (.ok (.ok (.ok ()), ready), v))
    (loads : ((Invocation.loadDriver s.machine).run ready).drive (World.answer (some (h.channel s)))
      (v.enter .nativesRegistered) = (.ok (.ok (), loaded), mid))
    (reached : Interaction.Reaches (World.answer (some (h.channel s)))
      ((Invocation.entry s.machine args).run loaded) (mid.enter .driverLoaded) (.ask q next)
        there) :
    ∃ later, Interaction.Reaches (World.answer (some (h.channel s)))
      ((Invocation.session s.machine args).run ⟨context, none⟩) (started w) (.ask q later)
        there := by
  have called : ∃ later, Interaction.Reaches (World.answer (some (h.channel s)))
      ((Except.ok (ε := String) <$> Invocation.callEntry s.machine args).run loaded)
      (mid.enter .driverLoaded) (.ask q later) there := by
    rw [Invocation.callEntry_eq, map_eq_pure_bind, Bridge.run_bind, Bridge.run_bind]
    exact ⟨_, ((reached.bind _).bind _).bind _⟩
  obtain ⟨later, inCall⟩ := called
  have driven := Bridge.reaches_bind loads fun _ =>
    (Bridge.ask (.enter .driverLoaded) >>= fun _ => .ok <$> Invocation.callEntry s.machine args :
      s.machine.Work (Except String (Except ScriptError Unit)))
  rw [Invocation.session_phases_eq]
  exact ⟨later,
    (Bridge.reaches_bind prepared _).trans (.step rfl (driven.trans (.step rfl inCall)))⟩

/-- A driver file that runs for ever hangs the run. -/
theorem driverHangs_of_hung {ready loaded : Live s.machine.engine.State} {v mid : World η}
    (prepared : ((Invocation.preparation s.machine).run ⟨context, none⟩).drive
      (World.answer (some (h.channel s))) (started w) = (.ok (.ok (.ok ()), ready), v))
    (loads : ((Invocation.loadDriver s.machine).run ready).drive (World.answer (some (h.channel s)))
      (v.enter .nativesRegistered) = (.ok (.error .hung, loaded), mid)) :
    driverHangs s context h w = true := by
  have phase : ((Invocation.driverPhase s.machine).run ready).drive
      (World.answer (some (h.channel s))) v = (.ok (.error .hung, loaded), mid) := by
    show ((Invocation.loadDriver s.machine >>= fun _ => Bridge.ask (.enter .driverLoaded) >>=
      fun _ => (pure () : s.machine.Work Unit)).run ready).drive _ (v.enter .nativesRegistered) = _
    rw [Bridge.run_bind, Interaction.drive_bind, loads]
    rfl
  have opened : ((Invocation.opening s.machine).run ⟨context, none⟩).drive
      (World.answer (some (h.channel s))) (started w) = (.ok (.error .hung, loaded), mid) :=
    (Bridge.drive_bind_of_value prepared _).1.trans (Bridge.drive_map _ phase)
  rw [driverHangs, opened]

/-- On a host that serves the run, a driver file that does not run for ever is followed by the entry
call, which ends or runs for ever, if the engine does not take the process down. -/
theorem Serves.comes_to_entry (served : Serves s h args w) (opens : Opens s (w.readings 0) context)
    (up : ((Invocation.session s.machine args).run ⟨context, none⟩).Ends fun ended =>
      ended.1 ≠ .error .crashed)
    {ready : Live s.machine.engine.State} {v : World η}
    (prepared : ((Invocation.preparation s.machine).run ⟨context, none⟩).drive
      (World.answer (some (h.channel s))) (started w) = (.ok (.ok (.ok ()), ready), v))
    (comes : driverHangs s context h w = false) :
    ∃ loaded mid ended last after,
      ((Invocation.loadDriver s.machine).run ready).drive (World.answer (some (h.channel s)))
        (v.enter .nativesRegistered) = (.ok (.ok (), loaded), mid) ∧
      ((Invocation.callEntry s.machine args).run loaded).drive (World.answer (some (h.channel s)))
        (mid.enter .driverLoaded) = (.ok (ended, last), after) ∧
      (ended = .error .hung ∨ ∃ result, ended = .ok result) := by
  obtain ⟨ended, last, after, worked, ends⟩ := served.session_ends opens
  have stays := up.of_drive worked
  rw [Invocation.session_phases_eq, (Bridge.drive_bind_of_value prepared _).1] at worked
  have driven : ((Invocation.loadDriver s.machine >>= fun _ =>
      Bridge.ask (.enter .driverLoaded) >>= fun _ =>
        Except.ok (ε := String) <$> Invocation.callEntry s.machine args).run ready).drive
      (World.answer (some (h.channel s))) (v.enter .nativesRegistered) =
        (.ok (ended, last), after) := worked
  rw [Bridge.run_bind, Interaction.drive_bind] at driven
  rcases loads : ((Invocation.loadDriver s.machine).run ready).drive
      (World.answer (some (h.channel s))) (v.enter .nativesRegistered) with
    ⟨e | ⟨stop | ⟨⟩, loaded⟩, mid⟩ <;> rw [loads] at driven
  · cases driven
  · obtain rfl : ended = .error stop := by
      cases driven
      rfl
    rcases ends with stopped | stopped | ⟨result, given⟩
    · -- a file that does not give way to the entry call runs for ever
      cases stopped
      cases (driverHangs_of_hung prepared loads).symm.trans comes
    · exact absurd stopped stays
    · cases given
  · change (((Except.ok (ε := String) <$> Invocation.callEntry s.machine args).run loaded).drive
      (World.answer (some (h.channel s))) (mid.enter .driverLoaded)) = _ at driven
    rcases called : ((Invocation.callEntry s.machine args).run loaded).drive
        (World.answer (some (h.channel s))) (mid.enter .driverLoaded) with
      ⟨e | ⟨result, last⟩, after⟩
    · rw [map_eq_pure_bind, Bridge.run_bind, Interaction.drive_bind, called] at driven
      cases driven
    · have mapped := Bridge.drive_map (Except.ok (ε := String)) called
      cases driven.symm.trans mapped
      refine ⟨loaded, mid, result, last, after, loads, called, ?_⟩
      rcases result with stop | verdict
      · rcases ends with stopped | stopped | ⟨_, given⟩
        · cases stopped
          exact .inl rfl
        · exact absurd stopped stays
        · cases given
      · exact .inr ⟨verdict, rfl⟩

/-- A run whose driver file comes to an end passes it over: on a host that serves the run and that
has been handed nothing before, the failure of the file is one line, and the entry call decides. -/
theorem Serves.passes (served : Serves s h args w) (free : w.borrowed = false)
    (unlinked : w.scripts.isLinked = false) (opens : Opens s (w.readings 0) context)
    {ready loaded last : Live s.machine.engine.State} {v mid after : World η}
    {ended : Except (Stop s.machine.engine.Value) (Except ScriptError Unit)}
    (prepared : ((Invocation.preparation s.machine).run ⟨context, none⟩).drive
      (World.answer (some (h.channel s))) (started w) = (.ok (.ok (.ok ()), ready), v))
    (silent : handed (((Invocation.preparation s.machine).run ⟨context, none⟩).trail
      (World.answer (some (h.channel s))) (started w)) = []) (host : v.host = w.host)
    (loads : ((Invocation.loadDriver s.machine).run ready).drive (World.answer (some (h.channel s)))
      (v.enter .nativesRegistered) = (.ok (.ok (), loaded), mid))
    (called : ((Invocation.callEntry s.machine args).run loaded).drive
      (World.answer (some (h.channel s))) (mid.enter .driverLoaded) = (.ok (ended, last), after))
    (ends : ended = .error .hung ∨ ∃ result, ended = .ok result) :
    ∃ own line rest,
      PassesDriver s h args w ready loaded (mid.enter .driverLoaded) own line rest := by
  have orderly := h.some_channel_orderly s
  obtain ⟨worked, parts⟩ := session_driven prepared loads called
  obtain ⟨outcome, concludes, nothing⟩ : ∃ outcome,
      (ended = .error .hung ∧ outcome = .halted .hung ∨
        ∃ result, ended = .ok result ∧ outcome = .finished result) ∧
      Invocation.conclusion s (Except.ok <$> ended, last) = .done outcome := by
    rcases ends with rfl | ⟨result, rfl⟩
    · exact ⟨_, .inl ⟨rfl, rfl⟩, rfl⟩
    · exact ⟨_, .inr ⟨result, rfl, rfl⟩, rfl⟩
  obtain ⟨result, asked⟩ := run_of_work unlinked opens worked nothing
  rw [parts] at asked
  obtain ⟨rest, trail, decides⟩ := Invocation.callEntry_decides called concludes
  have linked : v.scripts.linkage = .linked :=
    World.reached_linked orderly (Interaction.drive_eq_ok_iff.1 prepared) rfl
  obtain ⟨start, own, line, startHost, scripts, driver, texts⟩ :=
    Invocation.loadDriver_ends (v := v.enter .nativesRegistered) orderly linked loads
  -- the requests of the run, cut where its phases start
  have none : ∀ asked ∈ (HostRequest.readings, w.withLinkage .linked) ::
      ((Invocation.preparation s.machine).run ⟨context, Option.none⟩).trail
        (World.answer (some (h.channel s))) (started w), StartsNone asked.1 :=
    List.forall_mem_cons.2 ⟨⟨rfl, rfl⟩, (Invocation.preparation_asks s.machine _).trail⟩
  obtain ⟨driverPart, entryPart⟩ :=
    requests_split none (Invocation.loadDriver_asks s.machine ready).trail asked
  have first : handed ((HostRequest.readings, w.withLinkage .linked) ::
      ((Invocation.preparation s.machine).run ⟨context, Option.none⟩).trail
        (World.answer (some (h.channel s))) (started w)) = [] := silent
  refine ⟨own, line, rest, ?_⟩
  exact
    { ends := ⟨start, startHost.trans host, by rw [scripts]; rfl, driver⟩
      driver := by
        rw [driverPart]
        exact texts
      names := fun _ tells => driver.names tells
      entry := ⟨mid, rfl, by rw [entryPart, trail]⟩
      decides := result ▸ decides
      received := by
        rw [served.received free unlinked, asked, driverPart, entryPart, ← handed_append]
        exact (handed_append (_ :: _) _).trans (congrArg (· ++ _) first) }

end ScriptHost

end DecompilerBridge
