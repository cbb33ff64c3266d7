import DecompilerBridge.Proofs.Run.EntryCall
import DecompilerBridge.Proofs.Script.Errors

/-!
# The errors of the natives

A script that catches what a native throws can tell a wrong argument from a module that fails:
`call_tells_apart` says of every call of `r2cmd`, `___internal_load` and `___internal_require`, in
every state of an engine and on every host that does not panic, which error it throws and what it
does before.

* A native asks for its text first, so one that does not get it throws a `TypeError` and does
  nothing else (`native_refused`).
* `___internal_require` is what can go wrong with a module (`Machine.requireFailure`) and what is
  thrown then (`nativeRequire_run`). Nothing that a module throws gets past the first part
  (`requireFailure_attempted`), so whatever the native throws comes from the second, and that is an
  `EvalError` where scripts see the constructor of the language (`throwEval_run`).
* `___internal_load` prints one line for a module that cannot be had, and then throws a `TypeError`
  (`load_failed`). A host that is in use does not get the line.

An engine makes an error if it has the memory, the stack and the time for it (`ErrorView.CanMake`).
Where it has not, it throws something else (`required_without_stack`).
-/

set_option autoImplicit false

namespace DecompilerBridge

open Script (jsonInterpreter)

variable {η : Type}

/-! ## Hosts that do not panic -/

/-- A host does not panic, whatever it is asked for. -/
structure Host.NeverPanics (h : Host η) (s : Setup) : Prop where
  command : ∀ text w p, ((h.channel s).command text w).1 ≠ .panicked p
  print : ∀ text w p, ((h.channel s).print text w).1 ≠ .panicked p

/-- A host that does not panic answers every request without a panic. -/
theorem Host.NeverPanics.answer {h : Host η} {s : Setup} (calm : h.NeverPanics s) {q : HostRequest}
    {w : World η} {r : q.Reply} (answered : (World.answer (some (h.channel s)) q w).1 = .ok r) :
    q.panic? r = none := by
  cases q with
  | command text =>
    exact World.access_calm (by rintro _ ⟨⟩; exact calm.command text w) answered
  | print text => exact World.access_calm (by rintro _ ⟨⟩; exact calm.print text w) answered
  | diagnose line =>
    exact World.diagnose_calm (by rintro _ ⟨⟩; exact calm.print (line ++ "\n") w) answered
  | log record => rfl
  | event e => rfl
  | enter state => rfl
  | countEngine => rfl
  | readings => rfl

/-! ## The natives that take a text -/

namespace Machine

/-- The natives that take a text. -/
def textNatives : List Native := [.command, .load, .require]

/-- What can go wrong with a module that is required: the message of the error for it, or nothing if
it was evaluated to its end. -/
def requireFailure (m : Machine) (serve : Natives m.engine.State m.engine.Value) (name : String) :
    m.Work (Option String) := do
  match ← m.lookUp .require name with
  | .error e =>
    Bridge.diagnose ("Error: " ++ e.message ++ ".")
    pure (some e.message)
  | .ok found =>
    Bridge.log (.debug ("evaluating " ++ found.path))
    match ← m.engine.evaluateText serve found.text with
    | .ok () => pure none
    | .error fault =>
      let detail ← m.engine.describe serve fault
      pure (some (found.file ++ ": " ++ detail))

/-- What is left to do once it is known what went wrong with a module. -/
def requireOutcome (m : Machine) (serve : Natives m.engine.State m.engine.Value) :
    Option String → m.Work m.engine.Value
  | none => pure m.engine.undefined
  | some message => m.engine.throwEval serve message

/-- What is left to do once a module has been looked up. -/
def loadOutcome (m : Machine) (serve : Natives m.engine.State m.engine.Value) :
    Except ResolveError Module → m.Work m.engine.Value
  | .ok found => Bridge.check (Bridge.within serve (m.engine.makeText found.text))
  | .error e => do
    Bridge.diagnose ("Error: " ++ e.message ++ ".")
    m.engine.raise serve .typeError e.message

section

variable {m : Machine} {serve : Natives m.engine.State m.engine.Value} {live : Live m.engine.State}
  {args : List m.engine.Value} {text : String}

/-- A native that does not get its text throws a `TypeError`, asks for nothing, and does the same
whatever modules there are. -/
theorem native_refused {view : ErrorView m.engine} (law : view.Lawful)
    (ready : view.CanMake live.state) (refused : m.engine.argument? live.state args = none)
    {n : Native} (mem : n ∈ textNatives) :
    ∃ v after, view.classOf after v = some .typeError ∧ view.SameGlobals live.state after ∧
      ∀ resolver serve, (Machine.native { m with resolver := resolver } serve n args).run live =
        .done (.error (.thrown v), ⟨after, live.parked⟩) := by
  simp only [textNatives, List.mem_cons, List.not_mem_nil, or_false] at mem
  have stops : ∀ {native : String} {v after}
      {serve : Natives m.engine.State m.engine.Value} (rest : String → m.Work m.engine.Value),
      (m.engine.textArgument serve native args).run live =
          .done (.error (.thrown v), ⟨after, live.parked⟩) →
        (m.engine.textArgument serve native args >>= rest).run live =
          .done (.error (.thrown v), ⟨after, live.parked⟩) := by
    intro native v after serve rest throws
    rw [Bridge.run_bind, throws]
    rfl
  rcases mem with rfl | rfl | rfl
  · obtain ⟨v, after, isOne, same, throws⟩ := Bridge.textArgument_refused law ready refused "r2cmd"
    exact ⟨v, after, isOne, same, fun _ serve => stops _ (throws serve)⟩
  · obtain ⟨v, after, isOne, same, throws⟩ :=
      Bridge.textArgument_refused law ready refused "___internal_load"
    exact ⟨v, after, isOne, same, fun _ serve => stops _ (throws serve)⟩
  · obtain ⟨v, after, isOne, same, throws⟩ :=
      Bridge.textArgument_refused law ready refused "___internal_require"
    exact ⟨v, after, isOne, same, fun _ serve => stops _ (throws serve)⟩

/-! ### Required modules -/

/-- To require a module is to find out what is wrong with it, and to throw that. -/
theorem nativeRequire_run (given : m.engine.argument? live.state args = some text) :
    (m.nativeRequire serve args).run live =
      (m.requireFailure serve text >>= m.requireOutcome serve).run live := by
  rw [nativeRequire, Bridge.run_bind_of_done (Bridge.textArgument_run given _), requireFailure,
    bind_assoc]
  refine congrArg (fun x : m.Work m.engine.Value => x.run live)
    (congrArg (m.lookUp .require text >>= ·) (funext fun looked => ?_))
  cases looked with
  | error e => simp only [bind_assoc, pure_bind, requireOutcome]
  | ok found =>
    simp only [bind_assoc]
    refine congrArg (Bridge.log _ >>= ·) (funext fun _ => ?_)
    refine congrArg (m.engine.evaluateText serve found.text >>= ·) (funext fun ended => ?_)
    cases ended with
    | ok _ => simp only [pure_bind, requireOutcome]
    | error fault => simp only [bind_assoc, pure_bind, requireOutcome]

/-- Nothing that a module throws gets past what is found out about it. -/
theorem requireFailure_attempted (m : Machine) (serve : Natives m.engine.State m.engine.Value)
    (name : String) : Bridge.Attempted (m.requireFailure serve name) := by
  refine (Bridge.Attempted.lookUp m _ _).bind fun looked => ?_
  cases looked with
  | error e => exact (Bridge.Attempted.diagnose _).bind fun _ => .pure _
  | ok found =>
    refine (Bridge.Attempted.log _).bind fun _ =>
      (Bridge.Attempted.evaluateText _).bind fun ended => ?_
    cases ended with
    | ok _ => exact .pure _
    | error fault => exact (Bridge.Attempted.describe fault).bind fun _ => .pure _

end

variable {h : Host η} {s : Setup} {live failed after : Live s.machine.engine.State}
  {args : List s.machine.engine.Value} {text message : String} {w mid there : World η}
  {serve : Natives s.machine.engine.State s.machine.engine.Value}
  {view : ErrorView s.machine.engine}

/-- A native that requires a module throws only if the module fails, and what it throws then is an
`EvalError`. -/
theorem require_thrown (law : view.Lawful) {v : s.machine.engine.Value}
    (given : s.machine.engine.argument? live.state args = some text)
    (driven : ((s.machine.nativeRequire serve args).run live).drive
      (World.answer (some (h.channel s))) w = (.ok (.error (.thrown v), after), there)) :
    ∃ message failed mid, ((s.machine.requireFailure serve text).run live).drive
        (World.answer (some (h.channel s))) w = (.ok (.ok (some message), failed), mid) ∧
      ∀ cls, view.Installed failed.state cls → view.CanMake failed.state →
        view.classOf after.state v = some .evalError := by
  rw [nativeRequire_run given] at driven
  rcases Bridge.drive_bind_of_eq_stop driven with thrown | ⟨result, failed, mid, first, second⟩
  · -- the module itself lets nothing out
    exact ((requireFailure_attempted s.machine serve text live).of_drive thrown).elim
  · cases result with
    | none => cases second
    | some message =>
      refine ⟨message, failed, mid, first, fun cls installed ready => ?_⟩
      obtain ⟨thrown, last, isOne, throws⟩ := Bridge.throwEval_run law ready installed message
      have ended : (s.machine.requireOutcome serve (some message)).run failed = _ := throws serve
      rw [ended] at second
      cases second
      exact isOne

/-- A module that fails makes the native throw an `EvalError`, where that can be made and scripts
see the constructor that the language provides. -/
theorem require_failed (law : view.Lawful)
    (given : s.machine.engine.argument? live.state args = some text)
    (fails : ((s.machine.requireFailure serve text).run live).drive
      (World.answer (some (h.channel s))) w = (.ok (.ok (some message), failed), mid))
    {cls : s.machine.engine.Value} (installed : view.Installed failed.state cls)
    (ready : view.CanMake failed.state) :
    ∃ v last, ((s.machine.nativeRequire serve args).run live).drive
        (World.answer (some (h.channel s))) w = (.ok (.error (.thrown v), last), mid) ∧
      view.classOf last.state v = some .evalError := by
  obtain ⟨v, last, isOne, throws⟩ := Bridge.throwEval_run law ready installed message
  refine ⟨v, ⟨last, failed.parked⟩, ?_, isOne⟩
  obtain ⟨goesOn, -⟩ := Bridge.drive_bind_of_value fails (s.machine.requireOutcome serve)
  have ended : (s.machine.requireOutcome serve (some message)).run failed = _ := throws serve
  rw [nativeRequire_run given, goesOn, ended]
  rfl

/-! ### Loaded modules -/

/-- To load a module is to look it up, and to give its text or to tell why not. -/
theorem nativeLoad_drive (h : Host η)
    (serve : Natives s.machine.engine.State s.machine.engine.Value)
    (given : s.machine.engine.argument? live.state args = some text) (w : World η) :
    let call := (s.machine.nativeLoad serve args).run live
    let outcome := (s.machine.loadOutcome serve (s.machine.resolver.read .load text).1).run live
    let answer := World.answer (some (h.channel s))
    let noted := w.noteAll (s.machine.resolver.read .load text).2
    call.drive answer w = outcome.drive answer noted ∧
      handed (call.trail answer w) = handed (outcome.trail answer noted) := by
  intro call outcome answer noted
  obtain ⟨logged, quiet⟩ := Bridge.logAll_drive (V := s.machine.engine.Value) (some (h.channel s))
    (s.machine.resolver.read .load text).2 live w
  have split : call = (Bridge.logAll (s.machine.resolver.read .load text).2 >>= fun _ =>
      s.machine.loadOutcome serve (s.machine.resolver.read .load text).1).run live := by
    show (s.machine.nativeLoad serve args).run live = _
    rw [nativeLoad, Bridge.run_bind_of_done (Bridge.textArgument_run given _), lookUp, bind_assoc]
    refine congrArg (fun x : s.machine.Work s.machine.engine.Value => x.run live)
      (congrArg (Bridge.logAll _ >>= ·) (funext fun _ => ?_))
    rw [pure_bind]
    cases (s.machine.resolver.read .load text).1 <;> rfl
  obtain ⟨goesOn, parts⟩ := Bridge.drive_bind_of_value logged fun _ =>
    s.machine.loadOutcome serve (s.machine.resolver.read .load text).1
  rw [split]
  exact ⟨goesOn, by rw [parts, handed_append, quiet, List.nil_append]⟩

/-- For a module that cannot be had, one line is handed to the host, which prints it if it is linked
and free, and then a `TypeError` is thrown, unless the host goes no further. -/
theorem loadOutcome_error (law : view.Lawful) (calm : h.NeverPanics s)
    (ready : view.CanMake live.state)
    (serve : Natives s.machine.engine.State s.machine.engine.Value) (e : ResolveError)
    (u : World η) :
    let told := (s.machine.loadOutcome serve (.error e)).run live
    let answer := World.answer (some (h.channel s))
    let line := "Error: " ++ e.message ++ "." ++ "\n"
    handed (told.trail answer u) = [.print line u.scripts.state] ∧
      ((∃ v last there, told.drive answer u = (.ok (.error (.thrown v), last), there) ∧
          view.classOf last.state v = some .typeError ∧
          view.SameGlobals live.state last.state) ∨
        ∃ halt there, told.drive answer u = (.error halt, there)) ∧
      (u.scripts.linkage = .linked → u.borrowed = false →
        (told.drive answer u).2 = ((h.channel s).print line u).2) := by
  intro told answer line
  obtain ⟨v, last, isOne, same, throws⟩ :=
    Bridge.raise_run (α := s.machine.engine.Value) law ready .typeError e.message
  have asks : told = .ask (.diagnose ("Error: " ++ e.message ++ ".")) fun
      | .ok () => .done (.error (.thrown v), ⟨last, live.parked⟩)
      | .error p => .done (.error (.unwound p), live) := by
    show (loadOutcome s.machine serve (.error e)).run live = _
    rw [loadOutcome, Bridge.run_bind, Bridge.diagnose_run]
    show Interaction.ask _ _ = _
    congr 1
    funext r
    cases r with
    | error p => rfl
    | ok _ => exact throws serve
  have printed : u.scripts.linkage = .linked → u.borrowed = false →
      (answer (.diagnose ("Error: " ++ e.message ++ ".")) u).2 = ((h.channel s).print line u).2 :=
    fun linked free => congrArg Prod.snd
      (World.answer_eq_serve (h.channel s) (.diagnose ("Error: " ++ e.message ++ ".")) linked free)
  rw [asks]
  simp only [Interaction.trail, Interaction.drive]
  rcases answered : answer (.diagnose ("Error: " ++ e.message ++ ".")) u with
    ⟨halt | (p | ⟨⟩), there⟩ <;> rw [answered] at printed
  · exact ⟨rfl, .inr ⟨halt, there, rfl⟩, printed⟩
  · have safe := calm.answer (congrArg Prod.fst answered)
    cases safe
  · exact ⟨rfl, .inl ⟨v, _, there, rfl, isOne, same⟩, printed⟩

/-- A call for a module that cannot be had hands one line to the host, and then throws a
`TypeError`, unless the host goes no further. -/
theorem load_failed (law : view.Lawful) (calm : h.NeverPanics s) (ready : view.CanMake live.state)
    (given : s.machine.engine.argument? live.state args = some text) {e : ResolveError}
    (looked : (s.machine.resolver.read .load text).1 = .error e) (w : World η) :
    let call := (s.machine.nativeLoad serve args).run live
    let answer := World.answer (some (h.channel s))
    let line := "Error: " ++ e.message ++ "." ++ "\n"
    handed (call.trail answer w) = [.print line w.scripts.state] ∧
      ((∃ v last there, call.drive answer w = (.ok (.error (.thrown v), last), there) ∧
          view.classOf last.state v = some .typeError ∧
          view.SameGlobals live.state last.state) ∨
        ∃ halt there, call.drive answer w = (.error halt, there)) ∧
      (w.scripts.linkage = .linked → w.borrowed = false → (call.drive answer w).2 =
        ((h.channel s).print line (w.noteAll (s.machine.resolver.read .load text).2)).2) := by
  intro call answer line
  obtain ⟨goesOn, hands⟩ := nativeLoad_drive h serve given w
  rw [looked] at goesOn hands
  obtain ⟨told, throws, printed⟩ := loadOutcome_error law calm ready serve e
    (w.noteAll (s.machine.resolver.read .load text).2)
  rw [show call.drive answer w = _ from goesOn]
  exact ⟨hands.trans told, throws, printed⟩

/-- What a script that calls a native is told by the errors it throws, in a state of an engine and
with a host around it. -/
structure TellsApart (h : Host η) (s : Setup) (view : ErrorView s.machine.engine)
    (live : Live s.machine.engine.State) (args : List s.machine.engine.Value) (w : World η) :
    Prop where
  /-- A native that is not given a text throws a `TypeError`. It asks for nothing, and it does the
  same whatever modules there are. -/
  refused : ∀ n ∈ textNatives, s.machine.engine.argument? live.state args = none →
    view.CanMake live.state → ∃ v after, view.classOf after v = some .typeError ∧
      view.SameGlobals live.state after ∧
      ∀ resolver serve, (native { s.machine with resolver := resolver } serve n args).run live =
        .done (.error (.thrown v), ⟨after, live.parked⟩)
  /-- A native that requires a module throws only if the module fails, and what it throws is an
  `EvalError` if scripts see the constructor of the language then and the engine can make one. -/
  thrown : ∀ text serve, s.machine.engine.argument? live.state args = some text →
    ∀ v after there, ((s.machine.native serve .require args).run live).drive
        (World.answer (some (h.channel s))) w = (.ok (.error (.thrown v), after), there) →
      ∃ message failed mid, ((s.machine.requireFailure serve text).run live).drive
          (World.answer (some (h.channel s))) w = (.ok (.ok (some message), failed), mid) ∧
        ∀ cls, view.Installed failed.state cls → view.CanMake failed.state →
          view.classOf after.state v = some .evalError
  /-- It does so for every module that fails. -/
  failed : ∀ text serve, s.machine.engine.argument? live.state args = some text →
    ∀ message failed mid, ((s.machine.requireFailure serve text).run live).drive
        (World.answer (some (h.channel s))) w = (.ok (.ok (some message), failed), mid) →
      ∀ cls, view.Installed failed.state cls → view.CanMake failed.state →
        ∃ v after, ((s.machine.native serve .require args).run live).drive
            (World.answer (some (h.channel s))) w = (.ok (.error (.thrown v), after), mid) ∧
          view.classOf after.state v = some .evalError
  /-- For a module that cannot be had, the host is asked to print one line, which it prints if it is
  linked and free, and a `TypeError` is thrown, unless the host goes no further. -/
  unloaded : ∀ text serve e, s.machine.engine.argument? live.state args = some text →
    view.CanMake live.state → (s.machine.resolver.read .load text).1 = .error e →
    let call := (s.machine.native serve .load args).run live
    let answer := World.answer (some (h.channel s))
    let line := "Error: " ++ e.message ++ "." ++ "\n"
    handed (call.trail answer w) = [.print line w.scripts.state] ∧
      ((∃ v last there, call.drive answer w = (.ok (.error (.thrown v), last), there) ∧
          view.classOf last.state v = some .typeError ∧
          view.SameGlobals live.state last.state) ∨
        ∃ halt there, call.drive answer w = (.error halt, there)) ∧
      (w.scripts.linkage = .linked → w.borrowed = false → (call.drive answer w).2 =
        ((h.channel s).print line (w.noteAll (s.machine.resolver.read .load text).2)).2)

/-- On a host that does not panic, scripts can tell a wrong argument from a module that fails, in
every state of every engine that makes errors as it should, and whatever they call a native with. -/
theorem call_tells_apart (h : Host η) (s : Setup) (calm : h.NeverPanics s)
    {view : ErrorView s.machine.engine} (law : view.Lawful)
    (live : Live s.machine.engine.State) (args : List s.machine.engine.Value) (w : World η) :
    TellsApart h s view live args w where
  refused _ mem refused ready := native_refused law ready refused mem
  thrown _ _ given _ _ _ driven := require_thrown law given driven
  failed _ _ given _ _ _ fails _ installed ready := require_failed law given fails installed ready
  unloaded _ _ _ given ready looked := load_failed law calm ready given looked w

/-! ## A module that throws a number -/

section

open Script (Engine Value)
open ScriptHost (calmHost)

/-- A package with one module, which throws a number. -/
def throwingModule : Setup where
  machine := jsonInterpreter.machine
    { base := .fixed "/"
      files := { members := [("m.js", .file "[[\"throw\",1]]".toUTF8.toList)] } }

/-- The world of a run in its entry call. -/
def duringEntry {θ : Type} (host : θ) : World θ :=
  { scripts := { linkage := .linked, state := .driverLoaded, invocations := 1 }, host := host }

/-- A new engine in which some calls can be made one inside the other. -/
def newWith (left : Nat) : Live throwingModule.machine.engine.State :=
  ⟨{ jsonInterpreter.newEngine {} {} with left := left }, none⟩

/-- A text as the argument of a native. -/
def textGiven (text : String) : List throwingModule.machine.engine.Value := [Value.ofString text]

/-- What becomes of a call of a native with a text, in a new engine of that package. -/
def calledWith {θ : Type} (h : Host θ) (left : Nat) (n : Native) (text : String) (w : World θ) :=
  ((throwingModule.machine.native throwingModule.machine.natives n (textGiven text)).run
    (newWith left)).drive (World.answer (some (h.channel throwingModule))) w

/-- The class of the error that a call has thrown, if it has. -/
def thrownClass? {θ : Type} (ended : Except Halt (Except (Stop throwingModule.machine.engine.Value)
    throwingModule.machine.engine.Value × Live throwingModule.machine.engine.State) × World θ) :
    Option ErrorClass :=
  match ended.1 with
  | .ok (.error (.thrown v), after) => jsonInterpreter.errorView.classOf after.state v
  | _ => none

/-- Whether the module fails, with some stack left, and scripts see the constructor of the language
then. -/
def failsPlainly (left : Nat) : Bool :=
  match ((throwingModule.machine.requireFailure throwingModule.machine.natives "m").run
      (newWith left)).drive (World.answer (some (calmHost.channel throwingModule)))
      (duringEntry ()) with
  | (.ok (.ok (some _), failed), _) =>
    decide (Script.Store.HasEvalError (Engine.toStore failed.state)) &&
      decide ((Engine.left failed.state) = left) && (Engine.timeout failed.state).isNone
  | _ => false

/-- A command that is given `null`, a module that throws a number, and a module that is missing. -/
theorem call_tells_apart_thrown :
    calmHost.NeverPanics throwingModule ∧ jsonInterpreter.errorView.Lawful ∧
      (∃ v after, jsonInterpreter.errorView.classOf after v = some .typeError ∧
        jsonInterpreter.errorView.SameGlobals (newWith 1).state after ∧
        ∀ resolver serve,
          (native { throwingModule.machine with resolver := resolver } serve .command
          [(.null : Value)]).run (newWith 1) = .done (.error (.thrown v), ⟨after, none⟩)) ∧
      thrownClass? (calledWith calmHost 1 .require "m" (duringEntry ())) = some .evalError ∧
      handed (((throwingModule.machine.native throwingModule.machine.natives .load
          (textGiven "nope")).run (newWith 1)).trail
          (World.answer (some (calmHost.channel throwingModule))) (duringEntry ())) =
        [.print "Error: 'nope' not found.\n" .driverLoaded] := by
  have calm : calmHost.NeverPanics throwingModule := ⟨fun _ _ _ => nofun, fun _ _ _ => nofun⟩
  have law : jsonInterpreter.errorView.Lawful := jsonInterpreter.errorView_lawful
  have ready : jsonInterpreter.errorView.CanMake (newWith 1).state := ⟨Nat.one_pos, .inr nofun⟩
  have apart := fun args => call_tells_apart calmHost throwingModule calm law (newWith 1) args
    (duringEntry ())
  refine ⟨calm, law, ?_, ?_, ?_⟩
  · exact (apart [(.null : Value)]).refused .command (by decide) rfl ready
  · have fails : failsPlainly 1 = true := by decide +kernel
    unfold failsPlainly at fails
    split at fails
    · next message failed mid driven =>
      obtain ⟨⟨installed, left⟩, untimed⟩ : (_ ∧ _) ∧ _ := by simpa using fails
      obtain ⟨v, after, thrown, isOne⟩ := (apart (textGiven "m")).failed "m" _
        (by decide +kernel) message failed mid driven _ ⟨rfl, installed⟩
        ⟨by rw [left]; exact Nat.one_pos, .inr fun deadline timed => by
          rw [untimed] at timed; cases timed⟩
      unfold calledWith
      rw [thrown]
      exact isOne
    · cases fails
  · have missing : (throwingModule.machine.resolver.read .load "nope").1 =
        .error (.notFound "nope" "/nope") := by
      decide +kernel
    exact ((apart (textGiven "nope")).unloaded "nope" _ _ (by decide +kernel) ready missing).1

/-- With no stack left for another call, a module that fails makes the native throw a `RangeError`.
A host that is in use when a module is missing prints nothing. -/
theorem required_without_stack :
    failsPlainly 0 = true ∧
      thrownClass? (calledWith calmHost 0 .require "m" (duringEntry ())) = some .rangeError ∧
      calmHost.recorded.NeverPanics throwingModule ∧
      thrownClass? (calledWith calmHost.recorded 1 .load "nope"
        { duringEntry ((), []) with borrowed := true }) = some .typeError ∧
      (calledWith calmHost.recorded 1 .load "nope"
        { duringEntry ((), []) with borrowed := true }).2.host.2 = [] := by
  have evaluated : failsPlainly 0 = true ∧
      thrownClass? (calledWith calmHost 0 .require "m" (duringEntry ())) = some .rangeError ∧
      thrownClass? (calledWith calmHost.recorded 1 .load "nope"
        { duringEntry ((), []) with borrowed := true }) = some .typeError ∧
      (calledWith calmHost.recorded 1 .load "nope"
        { duringEntry ((), []) with borrowed := true }).2.host.2 = [] := by
    decide +kernel
  exact ⟨evaluated.1, evaluated.2.1, ⟨fun _ _ _ => nofun, fun _ _ _ => nofun⟩, evaluated.2.2⟩

end

end Machine

end DecompilerBridge
