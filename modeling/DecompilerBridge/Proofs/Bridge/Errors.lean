import DecompilerBridge.Proofs.Bridge.Runs

/-!
# New errors

What it takes for a script to get the error that a native throws: an engine that makes errors as it
should (`ErrorView.Lawful`), as long as it has the memory, the stack and the time for one
(`ErrorView.CanMake`). Then a new error is of its class (`Bridge.raise_run`), the error for a module
is an `EvalError` as long as scripts see the constructor of the language (`Bridge.throwEval_run`),
and a native that does not get its text throws a `TypeError` (`Bridge.textArgument_refused`).
-/

set_option autoImplicit false

namespace DecompilerBridge

/-- What scripts see of the errors of an engine. -/
structure ErrorView (E : ScriptEngine) where
  /-- The class of the error that a value is, if it is one. -/
  classOf : E.State → E.Value → Option ErrorClass
  /-- Scripts see the same globals in two states. -/
  SameGlobals : E.State → E.State → Prop
  /-- The engine has the memory, the stack and the time for a new error, and no script has a say in
  how it is made. -/
  CanMake : E.State → Prop
  /-- A value is the constructor `EvalError` of the language, and the global `EvalError` is that. -/
  Installed : E.State → E.Value → Prop

/-- How an engine makes errors. -/
structure ErrorView.Lawful {E : ScriptEngine} (view : ErrorView E) : Prop where
  /-- A new error is one of its class. To throw it calls no native, and scripts see the same globals
  then. -/
  throwNew : ∀ cls message now, view.CanMake now → ∃ v after,
    (E.throwNew cls message).run now = .done (.error (.thrown v), after) ∧
      view.classOf after v = some cls ∧ view.SameGlobals now after
  /-- The global is read as it is, and is a constructor. -/
  reads : ∀ now cls, view.Installed now cls →
    (E.global "EvalError").run now = .done (.ok cls, now) ∧ E.isConstructor now cls = true
  /-- That constructor makes a new error of its class out of a text. -/
  construct : ∀ now cls message, view.Installed now cls → view.CanMake now →
    ∃ text between v after, (E.makeText message).run now = .done (.ok text, between) ∧
      (E.construct cls [text]).run between = .done (.ok v, after) ∧
      view.classOf after v = some .evalError

/-- The text that a native takes from its arguments. There is none if the argument is missing or is
no text, or if it is a text that the host cannot spell. -/
def ScriptEngine.argument? (E : ScriptEngine) (now : E.State) : List E.Value → Option String
  | [] => none
  | v :: _ => (E.text? now v).bind Except.toOption

namespace Bridge

variable {E : ScriptEngine} {view : ErrorView E} {live : Live E.State} {α : Type}

/-- A new error that can be made is thrown, and nothing else is done. -/
theorem raise_run (law : view.Lawful) (ready : view.CanMake live.state) (cls : ErrorClass)
    (message : String) : ∃ v after, view.classOf after v = some cls ∧
      view.SameGlobals live.state after ∧ ∀ serve,
        (E.raise serve cls message : Bridge E.State E.Value α).run live =
          .done (.error (.thrown v), ⟨after, live.parked⟩) := by
  obtain ⟨v, after, throws, isOne, same⟩ := law.throwNew cls message live.state ready
  refine ⟨v, after, isOne, same, fun serve => ?_⟩
  rw [ScriptEngine.raise, run_bind, within_run_of_thrown throws]
  rfl

/-- The error for a module that fails is what the constructor makes that scripts see as `EvalError`.
-/
theorem throwEval_run_of_made {cls text v : E.Value} {between after : E.State} {message : String}
    (read : (E.global "EvalError").run live.state = .done (.ok cls, live.state))
    (constructs : E.isConstructor live.state cls = true)
    (spelled : (E.makeText message).run live.state = .done (.ok text, between))
    (made : (E.construct cls [text]).run between = .done (.ok v, after))
    (serve : Natives E.State E.Value) :
    (E.throwEval serve message : Bridge E.State E.Value α).run live =
      .done (.error (.thrown v), ⟨after, live.parked⟩) := by
  rw [ScriptEngine.throwEval, run_bind_of_done (check_run_of_value (within_run_of_value read)),
    run_state_bind, if_pos constructs,
    run_bind_of_done (check_run_of_value (within_run_of_value spelled)),
    run_bind_of_done (check_run_of_value (within_run_of_value made))]
  rfl

/-- It is an `EvalError`, where that can be made and scripts see the constructor of the language. -/
theorem throwEval_run (law : view.Lawful) (ready : view.CanMake live.state) {cls : E.Value}
    (installed : view.Installed live.state cls) (message : String) :
    ∃ v after, view.classOf after v = some .evalError ∧ ∀ serve,
      (E.throwEval serve message : Bridge E.State E.Value α).run live =
        .done (.error (.thrown v), ⟨after, live.parked⟩) := by
  obtain ⟨read, constructs⟩ := law.reads live.state cls installed
  obtain ⟨text, between, v, after, spelled, made, isOne⟩ :=
    law.construct live.state cls message installed ready
  exact ⟨v, after, isOne, throwEval_run_of_made read constructs spelled made⟩

/-! ## Arguments -/

/-- A native that has its text goes on with it. -/
theorem textArgument_run {serve : Natives E.State E.Value} {args : List E.Value} {text : String}
    (given : E.argument? live.state args = some text) (native : String) :
    (E.textArgument serve native args).run live = .done (.ok text, live) := by
  rcases args with _ | ⟨v, rest⟩
  · cases given
  · rw [ScriptEngine.textArgument, run_state_bind]
    cases spelled : E.text? live.state v with
    | none => simp [ScriptEngine.argument?, spelled] at given
    | some spelling =>
      cases spelling with
      | error message => simp [ScriptEngine.argument?, spelled, Except.toOption] at given
      | ok text' =>
        simp only [ScriptEngine.argument?, spelled, Option.bind_some, Except.toOption,
          Option.some.injEq] at given
        subst given
        rfl

/-- A native that does not get its text throws a `TypeError`. -/
theorem textArgument_refused (law : view.Lawful) (ready : view.CanMake live.state)
    {args : List E.Value} (refused : E.argument? live.state args = none) (native : String) :
    ∃ v after, view.classOf after v = some .typeError ∧ view.SameGlobals live.state after ∧
      ∀ serve, (E.textArgument serve native args).run live =
        .done (.error (.thrown v), ⟨after, live.parked⟩) := by
  rcases args with _ | ⟨v, rest⟩
  · exact raise_run law ready _ _
  · cases spelled : E.text? live.state v with
    | none =>
      obtain ⟨thrown, after, isOne, same, throws⟩ := raise_run (α := String) law ready .typeError
        (native ++ ": expected a string, got " ++ E.typeName live.state v)
      refine ⟨thrown, after, isOne, same, fun serve => ?_⟩
      rw [ScriptEngine.textArgument, run_state_bind, spelled]
      exact throws serve
    | some spelling =>
      cases spelling with
      | ok text => simp [ScriptEngine.argument?, spelled, Except.toOption] at refused
      | error message =>
        obtain ⟨thrown, after, isOne, same, throws⟩ :=
          raise_run (α := String) law ready .typeError message
        refine ⟨thrown, after, isOne, same, fun serve => ?_⟩
        rw [ScriptEngine.textArgument, run_state_bind, spelled]
        exact throws serve

end Bridge

end DecompilerBridge
