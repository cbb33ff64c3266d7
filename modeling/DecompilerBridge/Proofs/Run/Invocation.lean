import DecompilerBridge.Proofs.Bridge.Requests
import DecompilerBridge.Proofs.Run.Frame

/-!
# How an invocation starts and ends

An invocation takes what its engine is going to read, and makes the engine (`start_cases`). The work
of the engine first counts it and notes the number it got; everything after that, `Invocation.work`,
neither knows the number nor counts again (`session_run`, `work_asks`).

It ends with a result, a panic, or a halt. Under containment the result is never that of a refused
run and the halt is never the end of the process by its own hand (`reported_ends`).
-/

set_option autoImplicit false

namespace DecompilerBridge

open Bridge (Gives)

namespace Invocation

/-! ## The start -/

/-- An engine can be made for a run, with a context to work in. -/
structure Opens (s : Setup) (readings : Readings) (context : s.machine.engine.State) : Prop where
  deadline : s.machine.limits.deadlineExists s.clock = true
  context : ∃ runtime, s.machine.engine.newRuntime readings = .ok runtime ∧
    s.machine.engine.newContext s.machine.limits runtime = .ok context

/-- What an invocation does once its readings are there. -/
def start (s : Setup) (args : String) (readings : Readings) :
    Progress (Outcome (Except ScriptError Unit)) :=
  match s.machine.engine.newRuntime readings with
  | .error e => fatal s.policy ("cannot create the script runtime: " ++ e)
  | .ok runtime =>
    if !s.machine.limits.deadlineExists s.clock then .done (.panicked deadlinePanic)
    else
      match s.machine.engine.newContext s.machine.limits runtime with
      | .error e => fatal s.policy ("cannot create the script context: " ++ e)
      | .ok context =>
        Interaction.bind ((session s.machine args).run ⟨context, none⟩) fun (result, _) =>
          conclude s.policy result

/-- An invocation asks for its readings first. -/
theorem invoke_eq (s : Setup) (args : String) : invoke s args = .ask .readings (start s args) := rfl

/-- An invocation that has its readings, with the report of a panic that comes out of it. -/
def begun (s : Setup) (args : String) (readings : Readings) :
    Progress (Outcome (Except ScriptError Unit)) :=
  (start s args readings).bind (reportPanic s)

/-- An invocation with the report of a panic asks for its readings first. -/
theorem reported_eq (s : Setup) (args : String) :
    reported s args = .ask .readings (begun s args) := by
  rw [reported, invoke_eq]
  rfl

/-- An invocation works in a new context, or reports a fatal fault, or panics. -/
theorem start_cases (s : Setup) (args : String) (readings : Readings) :
    (∃ context, Opens s readings context ∧ start s args readings =
        Interaction.bind ((session s.machine args).run ⟨context, none⟩) fun ended =>
          conclude s.policy ended.1) ∨
      (∃ message, start s args readings = fatal s.policy message) ∨
      start s args readings = .done (.panicked deadlinePanic) := by
  cases made : s.machine.engine.newRuntime readings with
  | error e => exact .inr (.inl ⟨_, by simp only [start, made]; rfl⟩)
  | ok runtime =>
    cases deadline : s.machine.limits.deadlineExists s.clock with
    | false => exact .inr (.inr (by simp [start, made, deadline]))
    | true =>
      cases opened : s.machine.engine.newContext s.machine.limits runtime with
      | error e => exact .inr (.inl ⟨_, by simp [start, made, deadline, opened]; rfl⟩)
      | ok context =>
        refine .inl ⟨context, ⟨deadline, runtime, made, opened⟩, ?_⟩
        simp only [start, made, deadline, opened, Bool.not_true, Bool.false_eq_true, if_false]

/-- An invocation for which an engine can be made is the work of the engine, and its conclusion. -/
theorem start_of_opens {s : Setup} {readings : Readings} {context : s.machine.engine.State}
    (opens : Opens s readings context) (args : String) :
    start s args readings =
      Interaction.bind ((session s.machine args).run ⟨context, none⟩) fun ended =>
        conclude s.policy ended.1 := by
  obtain ⟨deadline, runtime, made, opened⟩ := opens
  simp only [start, made, deadline, opened, Bool.not_true, Bool.false_eq_true, if_false]

/-- What follows the work of an engine: its conclusion, with the report of a panic that comes out.
-/
def conclusion {V σ : Type} (s : Setup)
    (ended : Except (Stop V) (Except String (Except ScriptError Unit)) × Live σ) :
    Progress (Outcome (Except ScriptError Unit)) :=
  (conclude s.policy ended.1).bind (reportPanic s)

/-- An invocation with the report of a panic is the work of its engine and what follows, if an
engine can be made. -/
theorem begun_of_opens {s : Setup} {readings : Readings} {context : s.machine.engine.State}
    (opens : Opens s readings context) (args : String) :
    begun s args readings =
      ((session s.machine args).run ⟨context, none⟩).bind (conclusion s) := by
  rw [begun, start_of_opens opens, Interaction.bind_assoc]
  rfl

/-- An invocation with the report of a panic works in a new context, or reports a fatal fault, or
reports that the deadline cannot be computed. -/
theorem begun_cases (s : Setup) (args : String) (readings : Readings) :
    (∃ context, Opens s readings context ∧ begun s args readings =
        ((session s.machine args).run ⟨context, none⟩).bind (conclusion s)) ∨
      (∃ message, begun s args readings = (fatal s.policy message).bind (reportPanic s)) ∨
      begun s args readings = fatal s.policy deadlinePanic.message := by
  rcases start_cases s args readings with ⟨context, opens, -⟩ | ⟨message, faulty⟩ | overflown
  · exact .inl ⟨context, opens, begun_of_opens opens args⟩
  · exact .inr (.inl ⟨message, by rw [begun, faulty]⟩)
  · exact .inr (.inr (by rw [begun, overflown]; rfl))

/-- The record of a new engine and its number. -/
def engineRecord (number : Nat) : LogRecord :=
  .debug ("engine #" ++ toString number ++ " created")

/-- What an engine does once it has its natives. -/
def afterRegistration (m : Machine) (args : String) : m.Work (Except ScriptError Unit) := do
  let _ ← Bridge.ask (.enter .nativesRegistered)
  loadDriver m
  let _ ← Bridge.ask (.enter .driverLoaded)
  callEntry m args

/-- What an invocation does once its engine has a number. -/
def work (m : Machine) (args : String) : m.Work (Except String (Except ScriptError Unit)) := do
  match ← register m with
  | .error detail => pure (.error ("cannot register natives: " ++ detail))
  | .ok () => .ok <$> afterRegistration m args

/-- The work of an engine counts it, notes the number, and goes on without it. -/
theorem session_run (m : Machine) (args : String) (live : Live m.engine.State) :
    (session m args).run live =
      .ask .countEngine fun (number : Nat) => .ask (.enter .engineCreated) fun _ =>
        .ask (.log (engineRecord number)) fun _ => (work m args).run live := by
  have same : work m args = (register m >>= fun registered => match registered with
      | .error detail => pure (.error ("cannot register natives: " ++ detail))
      | .ok () => do
        let _ ← Bridge.ask (.enter .nativesRegistered)
        loadDriver m
        let _ ← Bridge.ask (.enter .driverLoaded)
        .ok <$> callEntry m args) := by
    unfold work
    refine congrArg (register m >>= ·) (funext fun registered => ?_)
    cases registered with
    | error detail => rfl
    | ok _ => simp only [afterRegistration, map_bind]
  rw [same]
  rfl

section

variable {P : HostRequest → Prop}

/-- The report of a fatal fault notes a record and prints a diagnostic. -/
theorem fatal_asks (logs : ∀ record, P (.log record)) (diagnoses : ∀ line, P (.diagnose line))
    (policy : FatalPolicy) (message : String) : (fatal policy message).Asks P := by
  cases policy with
  | abort => trivial
  | contain =>
    refine ⟨logs _, fun _ => ⟨diagnoses _, fun r => ?_⟩⟩
    cases r <;> trivial

/-- So does what follows a panic. -/
theorem reportPanic_asks (logs : ∀ record, P (.log record)) (diagnoses : ∀ line, P (.diagnose line))
    (s : Setup) (ended : Outcome (Except ScriptError Unit)) : (reportPanic s ended).Asks P := by
  cases ended with
  | panicked p => exact fatal_asks logs diagnoses _ _
  | finished result => trivial
  | halted h => trivial

/-- So does what follows the work of an engine. -/
theorem conclude_asks {V : Type} (logs : ∀ record, P (.log record))
    (diagnoses : ∀ line, P (.diagnose line)) (policy : FatalPolicy)
    (ended : Except (Stop V) (Except String (Except ScriptError Unit))) :
    (conclude policy ended).Asks P := by
  rcases ended with (v | p | _ | _) | message | result
  · trivial
  · trivial
  · trivial
  · trivial
  · exact fatal_asks logs diagnoses _ _
  · trivial

/-- After the work of an engine, a run asks for a record and a diagnostic at most. -/
theorem conclusion_asks {V σ : Type} (logs : ∀ record, P (.log record))
    (diagnoses : ∀ line, P (.diagnose line)) (s : Setup)
    (ended : Except (Stop V) (Except String (Except ScriptError Unit)) × Live σ) :
    (conclusion s ended).Asks P :=
  (conclude_asks logs diagnoses _ _).bind fun _ => reportPanic_asks logs diagnoses _ _

variable (services : ∀ q : HostRequest, q.IsService → P q)
include services

/-- Adding the natives asks for services. -/
theorem register_asks (m : Machine) : Bridge.Asks P (register m) :=
  register_has (Bridge.asks_rules services m.engine) (Bridge.natives_ask services m) .attempt

variable (enters : ∀ state, P (.enter state))
include enters

/-- Once the engine has its number, an invocation asks for services, and moves to other states. -/
theorem work_asks (m : Machine) (args : String) : Bridge.Asks P (work m args) := by
  have rules := Bridge.asks_rules services m.engine
  have serves := Bridge.natives_ask services m
  refine (register_asks services m).bind fun registered => ?_
  cases registered with
  | error detail => exact rules.pure _
  | ok _ =>
    dsimp only
    exact rules.map _ <| rules.bind (Bridge.Asks.ask (enters _)) fun _ =>
      rules.bind (loadDriver_has rules serves .attempt) fun _ =>
        rules.bind (Bridge.Asks.ask (enters _)) fun _ =>
          callEntry_has rules serves .attempt (Bridge.Asks.ask (enters _)) args

/-- The work of an engine also counts it. -/
theorem session_asks (counts : P .countEngine) (m : Machine) (args : String) :
    Bridge.Asks P (session m args) := by
  intro live
  rw [session_run]
  exact ⟨counts, fun _ => ⟨enters _, fun _ => ⟨services _ trivial, fun _ =>
    work_asks services enters m args live⟩⟩⟩

/-- So does an invocation that has its readings, with the report of a panic. -/
theorem begun_asks (counts : P .countEngine) (s : Setup) (args : String) (readings : Readings) :
    (begun s args readings).Asks P := by
  have logs : ∀ record, P (.log record) := fun _ => services _ trivial
  have diagnoses : ∀ line, P (.diagnose line) := fun _ => services _ trivial
  rcases begun_cases s args readings with ⟨context, -, works⟩ | ⟨message, faulty⟩ | overflown
  · rw [works]
    exact (session_asks services enters counts s.machine args _).bind fun _ =>
      conclusion_asks logs diagnoses _ _
  · rw [faulty]
    exact (fatal_asks logs diagnoses _ _).bind fun _ => reportPanic_asks logs diagnoses _ _
  · rw [overflown]
    exact fatal_asks logs diagnoses _ _

/-- An invocation also asks for its readings. -/
theorem reported_asks (counts : P .countEngine) (reads : P .readings) (s : Setup) (args : String) :
    (reported s args).Asks P := by
  rw [reported_eq]
  exact ⟨reads, begun_asks services enters counts s args⟩

end

/-- The requests that do not count an engine. -/
def IsUncounted (q : HostRequest) : Prop := q ≠ .countEngine

/-- A script counts no engine. -/
theorem isUncounted_of_isService (q : HostRequest) (h : q.IsService) : IsUncounted q := by
  rintro rfl
  exact h

/-! ## The end -/

/-- A fault that is reported is a failed evaluation. -/
theorem report_gives (m : Machine) (what : String) (fault : EngineFault m.engine.Value) :
    Gives (fun e => ∃ shown, e = ScriptError.evaluation shown) (report m what fault) :=
  Gives.after _ fun _ => Gives.after _ fun _ => Gives.after _ fun _ => .pure ⟨_, rfl⟩

/-- The result of an entry call: success, or a failed evaluation. -/
def IsVerdict (result : Except ScriptError Unit) : Prop :=
  result = .ok () ∨ ∃ detail, result = .error (.evaluation detail)

/-- The entry call gives a verdict. -/
theorem callEntry_gives (m : Machine) (args : String) : Gives IsVerdict (callEntry m args) := by
  unfold callEntry
  refine Gives.after _ fun outcome => Gives.after _ fun _ => ?_
  cases outcome with
  | ok _ => exact .pure (.inl rfl)
  | error fault =>
    dsimp only
    refine (report_gives m Entry.functionName fault).map ?_
    rintro e ⟨shown, rfl⟩
    exact .inr ⟨shown, rfl⟩

/-- The work of an engine gives a verdict, if it has come to the entry call. -/
theorem session_gives (m : Machine) (args : String) :
    Gives (fun ended => ∀ result, ended = .ok result → IsVerdict result) (session m args) := by
  unfold session
  refine Gives.after _ fun _ => Gives.after _ fun _ => Gives.after _ fun _ =>
    Gives.after _ fun registered => ?_
  cases registered with
  | error detail => exact .pure nofun
  | ok _ =>
    dsimp only
    refine Gives.after _ fun _ => Gives.after _ fun _ => Gives.after _ fun _ =>
      (callEntry_gives m args).map ?_
    rintro result verdict _ ⟨⟩
    exact verdict

end Invocation

/-- The process goes no further and has not said why: it runs for ever, or it has crashed. -/
def Halt.IsSilent (h : Halt) : Prop := h = .hung ∨ h = .crashed

/-- How work under containment can end: with success, a failed evaluation or a fatal fault, with a
panic, or with a process that goes no further. -/
inductive Outcome.IsContained : Outcome (Except ScriptError Unit) → Prop where
  | success : IsContained (.finished (.ok ()))
  | evaluation (detail : String) : IsContained (.finished (.error (.evaluation detail)))
  | fatal (text : String) : IsContained (.finished (.error (.fatal text)))
  | panicked (p : Panic) : IsContained (.panicked p)
  | halted {h : Halt} : h.IsSilent → IsContained (.halted h)

namespace Invocation

/-- A fatal fault that is contained ends as a fatal fault, or with the host's panic. -/
theorem fatal_ends (message : String) : (fatal .contain message).Ends Outcome.IsContained := by
  intro _ r
  cases r with
  | ok _ => exact .fatal message
  | error p => exact .panicked p

/-- The work of an engine under containment ends in a contained way. -/
theorem conclude_ends {V : Type} {ended : Except (Stop V) (Except String (Except ScriptError Unit))}
    (verdict : ∀ result, ended = .ok (.ok result) → IsVerdict result) :
    (conclude .contain ended).Ends Outcome.IsContained := by
  rcases ended with (v | p | _ | _) | message | result
  · exact .panicked _
  · exact .panicked _
  · exact .halted (.inl rfl)
  · exact .halted (.inr rfl)
  · exact fatal_ends message
  · rcases verdict result rfl with rfl | ⟨detail, rfl⟩
    · exact .success
    · exact .evaluation detail

/-- An invocation under containment ends in a contained way. -/
theorem start_ends {s : Setup} (contain : s.policy = .contain) (args : String)
    (readings : Readings) : (start s args readings).Ends Outcome.IsContained := by
  rcases start_cases s args readings with ⟨context, -, works⟩ | ⟨message, faulty⟩ | overflown
  · rw [works, contain]
    refine (session_gives s.machine args _).bind fun ended verdict => ?_
    exact conclude_ends fun result given => verdict _ given result rfl
  · rw [faulty, contain]
    exact fatal_ends message
  · rw [overflown]
    exact .panicked _

/-- So does an invocation together with the report of a panic that comes out of it. -/
theorem reported_ends {s : Setup} (contain : s.policy = .contain) (args : String) :
    (reported s args).Ends Outcome.IsContained := by
  rw [reported_eq]
  refine fun (readings : Readings) =>
    (start_ends contain args readings).bind fun ended contained => ?_
  cases contained with
  | panicked p =>
    rw [reportPanic, contain]
    exact fatal_ends _
  | success => exact .success
  | evaluation detail => exact .evaluation detail
  | fatal text => exact .fatal text
  | halted silent => exact .halted silent

end Invocation

end DecompilerBridge
