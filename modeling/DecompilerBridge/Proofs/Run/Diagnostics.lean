import DecompilerBridge.Proofs.Run.EntryCall

/-!
# Results and diagnostics agree

A run that fails tells of it: the last request of its program is the diagnostic with the very text
that it returns (`reported_tells`). The statement is about the branches of the program, so it does
not depend on what scripts do before, on code that runs while a thrown value is described, or on the
host. What the host receives is what the program asks of it, and so the diagnostic is the last text
that it is handed.
-/

set_option autoImplicit false

namespace DecompilerBridge

open Script (jsonInterpreter)

variable {η : Type}

/-! ## The last request of a failed run -/

namespace Invocation

/-- A list of requests ends with the diagnostic of a failure. -/
inductive Tells : List HostRequest → ScriptError → Prop where
  | evaluation (earlier : List HostRequest) (detail : String) :
      Tells (earlier ++ [.diagnose ("Error: " ++ (Entry.functionName ++ ": " ++ detail))])
        (.evaluation (Entry.functionName ++ ": " ++ detail))
  | fatal (earlier : List HostRequest) (message : String) :
      Tells (earlier ++ [.diagnose (fatalLine message)]) (.fatal message)

/-- What is asked for before the diagnostic does not matter. -/
theorem Tells.prepend {qs : List HostRequest} {e : ScriptError} (tells : Tells qs e)
    (more : List HostRequest) : Tells (more ++ qs) e := by
  cases tells with
  | evaluation earlier detail =>
    rw [← List.append_assoc]
    exact .evaluation _ detail
  | fatal earlier message =>
    rw [← List.append_assoc]
    exact .fatal _ message

/-- A failed evaluation is told as one of the entry function. -/
theorem Tells.detail {qs : List HostRequest} {detail : String}
    (tells : Tells qs (.evaluation detail)) :
    ∃ rest, detail = Entry.functionName ++ ": " ++ rest := by
  cases tells with
  | evaluation earlier rest => exact ⟨rest, rfl⟩

/-- A computation that fails has told of it last. -/
def TellsFailure {σ V : Type} (x : Bridge σ V (Except ScriptError Unit)) : Prop :=
  ∀ live qs ended, Interaction.Trace (x.run live) qs ended →
    ∀ e, ended.1 = .ok (.error e) → Tells qs e

/-- What comes before a computation that tells of its failure makes no difference. -/
theorem TellsFailure.after {σ V α : Type} {f : α → Bridge σ V (Except ScriptError Unit)}
    (x : Bridge σ V α) (hf : ∀ a, TellsFailure (f a)) : TellsFailure (x >>= f) := by
  intro live qs ended trace e failed
  rcases Bridge.trace_bind trace with ⟨stop, -, stopped⟩ | ⟨a, after, first, second, rfl, -, rest⟩
  · rw [failed] at stopped
    cases stopped
  · exact (hf a after second ended rest e failed).prepend first

/-- A report is a description, and then the diagnostic of the failure. -/
theorem trace_report {m : Machine} {what : String} {fault : EngineFault m.engine.Value}
    {live after : Live m.engine.State} {qs : List HostRequest} {e : ScriptError}
    (told : Interaction.Trace ((report m what fault).run live) qs (.ok e, after)) :
    ∃ earlier detail, e = .evaluation (what ++ ": " ++ detail) ∧
      qs = earlier ++ [.diagnose ("Error: " ++ (what ++ ": " ++ detail))] := by
  rcases Bridge.trace_bind told with
    ⟨stop, -, stopped⟩ | ⟨detail, between, first, second, rfl, -, rest⟩
  · cases stopped
  · have printed : Interaction.Trace ((printed m (what ++ ": " ++ detail)).run between) second
      (.ok e, after) := rest
    rw [printed_run] at printed
    cases printed with
    | ask _ rest =>
      cases rest with
      | ask r rest =>
        cases r with
        | error p => cases rest
        | ok _ =>
          cases rest
          exact ⟨first ++ [_], detail, rfl, by rw [List.append_assoc]; rfl⟩

/-- A verdict that fails tells of the failure last. -/
theorem verdict_tells (m : Machine) (ending : Bridge.Ending m.engine.Value Unit) :
    TellsFailure (verdict m ending) := by
  cases ending with
  | value a =>
    intro live qs ended trace e failed
    cases trace with
    | done _ => cases failed
  | thrown v =>
    intro live qs ended trace e failed
    rcases Bridge.trace_bind trace with
      ⟨stop, -, stopped⟩ | ⟨error, after, first, second, rfl, told, rest⟩
    · rw [failed] at stopped
      cases stopped
    · cases rest with
      | done _ =>
        cases failed
        obtain ⟨earlier, detail, rfl, rfl⟩ := trace_report told
        rw [List.append_nil]
        exact Tells.evaluation earlier detail

/-- The entry call tells of its failure last. -/
theorem callEntry_tells (m : Machine) (args : String) : TellsFailure (callEntry m args) := by
  rw [callEntry_eq]
  exact .after _ fun ending => .after _ fun _ => verdict_tells m ending

/-- So does the work of an engine that has come to the entry call. -/
theorem session_tells {m : Machine} {args : String} {live : Live m.engine.State}
    {qs : List HostRequest} {e : ScriptError} {after : Live m.engine.State}
    (trace : Interaction.Trace ((session m args).run live) qs (.ok (.ok (.error e)), after)) :
    Tells qs e := by
  rw [session_eq] at trace
  rcases Bridge.trace_bind trace with
    ⟨stop, -, stopped⟩ | ⟨opened, between, first, second, rfl, -, rest⟩
  · cases stopped
  · cases opened with
    | error message => cases rest
    | ok _ =>
      rcases Bridge.trace_bind rest with
        ⟨stop, -, stopped⟩ | ⟨result, after, called, nothing, rfl, told, rest⟩
      · cases stopped
      · cases rest
        rw [List.append_nil]
        exact (callEntry_tells m args _ _ _ told e rfl).prepend first

/-- A fatal fault that is contained is told last. -/
theorem fatal_tells (policy : FatalPolicy) (message : String) {qs : List HostRequest}
    {e : ScriptError} (trace : Interaction.Trace (fatal policy message) qs (.finished (.error e))) :
    Tells qs e := by
  cases policy with
  | abort => cases trace
  | contain =>
    cases trace with
    | ask _ trace =>
      cases trace with
      | ask r trace =>
        cases r with
        | error p => cases trace
        | ok _ =>
          cases trace with
          | done _ => exact Tells.fatal [.log _] message

/-- The report of a panic that fails has told of it last, unless what it reports is a result. -/
theorem reportPanic_tells (s : Setup) {outcome : Outcome (Except ScriptError Unit)}
    {qs : List HostRequest} {e : ScriptError}
    (trace : Interaction.Trace (reportPanic s outcome) qs (.finished (.error e))) :
    (qs = [] ∧ outcome = .finished (.error e)) ∨ Tells qs e := by
  cases outcome with
  | finished result =>
    cases trace
    exact .inl ⟨rfl, rfl⟩
  | panicked p => exact .inr (fatal_tells _ _ trace)
  | halted h => cases trace

/-- So has the report of a fatal fault, and of a panic that comes out of it. -/
theorem fatal_bind_tells (s : Setup) (message : String) {qs : List HostRequest} {e : ScriptError}
    (trace : Interaction.Trace ((fatal s.policy message).bind (reportPanic s)) qs
      (.finished (.error e))) : Tells qs e := by
  obtain ⟨first, second, outcome, rfl, told, rest⟩ := trace.of_bind
  rcases reportPanic_tells s rest with ⟨rfl, rfl⟩ | tells
  · rw [List.append_nil]
    exact fatal_tells _ _ told
  · exact tells.prepend first

/-- What follows the work of an engine tells of a failure last, or passes on a failure of the entry
call. -/
theorem conclusion_tells {V σ : Type} (s : Setup)
    {ended : Except (Stop V) (Except String (Except ScriptError Unit)) × Live σ}
    {qs : List HostRequest} {e : ScriptError}
    (trace : Interaction.Trace (conclusion s ended) qs (.finished (.error e))) :
    (qs = [] ∧ ended.1 = .ok (.ok (.error e))) ∨ Tells qs e := by
  obtain ⟨outcome, live⟩ := ended
  rcases outcome with (v | p | _ | _) | message | result
  · exact .inr (fatal_tells _ _ trace)
  · exact .inr (fatal_tells _ _ trace)
  · cases trace
  · cases trace
  · exact .inr (fatal_bind_tells s message trace)
  · cases trace
    exact .inl ⟨rfl, rfl⟩

/-- An invocation that fails, with the report of a panic that comes out of it, has told of it last.
-/
theorem reported_tells (s : Setup) (args : String) {qs : List HostRequest} {e : ScriptError}
    (trace : Interaction.Trace (reported s args) qs (.finished (.error e))) : Tells qs e := by
  rw [reported_eq] at trace
  cases trace with
  | @ask _ _ qs _ readings trace =>
    refine Tells.prepend ?_ [.readings]
    rcases begun_cases s args readings with ⟨context, -, works⟩ | ⟨message, faulty⟩ | overflown
    · rw [works] at trace
      obtain ⟨worked, last, ended, rfl, session, rest⟩ := trace.of_bind
      rcases conclusion_tells s rest with ⟨rfl, failed⟩ | tells
      · rw [List.append_nil]
        obtain ⟨outcome, live⟩ := ended
        cases failed
        exact session_tells session
      · exact tells.prepend worked
    · rw [faulty] at trace
      exact fatal_bind_tells s message trace
    · rw [overflown] at trace
      exact fatal_tells _ _ trace

/-- A run prints lines. -/
theorem reported_printsLines (s : Setup) (args : String) :
    (reported s args).Asks fun q : HostRequest =>
      ∀ text, q = .print text → ∃ line, text = line ++ "\n" := by
  refine reported_asks ?_ (fun _ _ => nofun) (fun _ => nofun) (fun _ => nofun) s args
  rintro _ service text rfl
  exact service

end Invocation

/-! ## What the host is told -/

/-- A diagnostic that comes last is the last that the host is handed. -/
theorem handed_of_last {asked : List (HostRequest × World η)} {earlier : List HostRequest}
    {line : String} (last : asked.map Prod.fst = earlier ++ [.diagnose line]) :
    ∃ before state, handed asked = before ++ [.print (line ++ "\n") state] := by
  obtain ⟨first, rest, rfl, -, tail⟩ := List.map_eq_append_iff.1 last
  obtain ⟨⟨q, v⟩, nothing, rfl, rfl, none⟩ := List.map_eq_cons_iff.1 tail
  rw [List.map_eq_nil_iff] at none
  subst none
  refine ⟨handed first, v.scripts.state, ?_⟩
  simp only [handed, List.filterMap_append]
  rfl

namespace ScriptHost

variable {s : Setup} {h : Host η} {args : String} {w : World η}

/-- The requests of a run that was not refused and has failed end with the diagnostic of the
failure, and the host has received all of them. -/
theorem failure_told (free : w.borrowed = false) {e : ScriptError}
    (failed : (run s (some (h.channel s)) args w).1 = .finished (.error e)) (tried : e ≠ .busy) :
    Invocation.Tells ((requests s h args w).map Prod.fst) e ∧
      received s h args w = handed (requests s h args w) := by
  have attempted : Outcome.finished (Except.error e : Except ScriptError Unit) ≠
      .finished (.error .busy) := by
    rintro ⟨⟩
    exact tried rfl
  obtain ⟨unlinked, after, driven⟩ := drive_of_run failed attempted rfl
  exact ⟨Invocation.reported_tells s args (Interaction.Trace.of_drive driven),
    (received_handed free unlinked).2 (by rw [failed]; rfl)⟩

/-- Every text that a run prints is a line. -/
theorem received_line (free : w.borrowed = false) {text : String} {state : EngineState}
    (printed : .print text state ∈ received s h args w) : ∃ line, text = line ++ "\n" := by
  cases linked : w.scripts.isLinked with
  | true =>
    rw [received, run_of_linked s _ args (w := unheard w) linked] at printed
    cases printed
  | false =>
    have asked := (received_handed free linked).1.subset printed
    obtain ⟨⟨q, before⟩, met, hands⟩ := List.mem_filterMap.1 asked
    obtain ⟨next, reached⟩ := Interaction.mem_trail_iff.1 met
    have lines := (reached.asks (Invocation.reported_printsLines s args)).1
    cases q with
    | print text' =>
      cases hands
      exact lines text rfl
    | diagnose line =>
      cases hands
      exact ⟨line, rfl⟩
    | command text' => cases hands
    | log record => cases hands
    | event e => cases hands
    | enter state' => cases hands
    | countEngine => cases hands
    | readings => cases hands

/-- In every run that starts on a host that is free, every text printed is a line. A run that fails
returns what it has printed last: a failed evaluation is one of the entry function, printed as an
error, and a fatal fault is printed as such. A run succeeds exactly if the entry expression was
evaluated to its end. -/
theorem result_matches_diagnostics (s : Setup) (h : Host η) (args : String) {w : World η}
    (free : w.borrowed = false) :
    (∀ text state, .print text state ∈ received s h args w → ∃ line, text = line ++ "\n") ∧
      (∀ detail, (run s (some (h.channel s)) args w).1 = .finished (.error (.evaluation detail)) →
        (∃ rest, detail = "r2dec_main: " ++ rest) ∧ ∃ earlier state, received s h args w =
          earlier ++ [.print ("Error: " ++ detail ++ "\n") state]) ∧
      (∀ message, (run s (some (h.channel s)) args w).1 = .finished (.error (.fatal message)) →
        ∃ earlier state, received s h args w =
          earlier ++ [.print ("*** FATAL ERROR: " ++ message ++ "\n") state]) ∧
      ((run s (some (h.channel s)) args w).1 = .finished (.ok ()) ↔
        ∃ live after, EntryEnds s h args w (.ok ()) live after) := by
  refine ⟨fun text state => received_line free, ?_, ?_, succeeds_iff⟩
  · intro detail failed
    obtain ⟨tells, all⟩ := failure_told free failed nofun
    rw [all]
    generalize asked : (requests s h args w).map Prod.fst = qs at tells
    cases tells with
    | evaluation earlier detail => exact ⟨⟨detail, rfl⟩, handed_of_last asked⟩
  · intro message failed
    obtain ⟨tells, all⟩ := failure_told free failed nofun
    rw [all]
    generalize asked : (requests s h args w).map Prod.fst = qs at tells
    cases tells with
    | fatal earlier message => exact handed_of_last asked

/-- A package whose driver throws, and whose entry function throws an object that prints when a text
is made of it. -/
def lateOutput : Setup where
  machine := jsonInterpreter.machine
    { base := .fixed "/"
      files := { members := [("require.js", .file
        ("[[\"def\",\"r2dec_main\",[[\"throw\",[\"str\",[\"call\",\"console.log\",\"late\"]]]]]," ++
          "[\"throw\",\"early\"]]").toUTF8.toList)] } }

/-- The error of the driver is printed first and is not the result. What is printed while the thrown
object is described comes before the line that reports it. -/
theorem result_matches_diagnostics_late :
    World.borrowed (η := Nat) { host := 0 } = false ∧
      (run lateOutput (some (nestingHost.channel lateOutput)) "" { host := 0 }).1 =
        .finished (.error (.evaluation "r2dec_main: thrown value: undefined")) ∧
      received lateOutput nestingHost "" { host := 0 } =
        [.print "Error: require.js: thrown value: early\n" .nativesRegistered,
          .print "late\n" .entryInvoked,
          .print "Error: r2dec_main: thrown value: undefined\n" .entryInvoked] ∧
      (∃ earlier state, received lateOutput nestingHost "" { host := 0 } =
        earlier ++ [.print "Error: r2dec_main: thrown value: undefined\n" state]) ∧
      ¬∃ live after, EntryEnds lateOutput nestingHost "" { host := 0 } (.ok ()) live after := by
  have evaluated : (run lateOutput (some (nestingHost.channel lateOutput)) "" { host := 0 }).1 =
        .finished (.error (.evaluation "r2dec_main: thrown value: undefined")) ∧
      received lateOutput nestingHost "" { host := 0 } =
        [.print "Error: require.js: thrown value: early\n" .nativesRegistered,
          .print "late\n" .entryInvoked,
          .print "Error: r2dec_main: thrown value: undefined\n" .entryInvoked] := by
    decide +kernel
  obtain ⟨failed, printed⟩ := evaluated
  obtain ⟨-, reported, -, succeeds⟩ :=
    result_matches_diagnostics lateOutput nestingHost "" (w := { host := 0 }) rfl
  refine ⟨rfl, failed, printed, (reported _ failed).2, fun ends => ?_⟩
  rw [succeeds.2 ends] at failed
  cases failed

end ScriptHost

end DecompilerBridge
