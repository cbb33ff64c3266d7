import DecompilerBridge.Proofs.Run.Deadline
import DecompilerBridge.Proofs.Run.Descriptions
import DecompilerBridge.Proofs.Run.NativeErrors
import DecompilerBridge.Proofs.Text.Blank

/-!
# Failures inside modules that require one another

A module that throws an error makes `___internal_require` throw another one: the error is described,
and a new `EvalError` has the description as its message, with the name of the file in front of it
(`require_described`). So the error that comes out of a chain of modules names every file on its way
(`chain_throws`), and a run whose entry function requires the first of them returns all the names
and prints them (`module_chain_named`).

Three facts carry the induction over the chain.

* The engine goes on being one in which scripts can require modules (`Engine.Requires`), with the
  bounds that it had: nothing on the way replaces a global or parks a panic.
* What is thrown at every level is an error that reads as its class and its message do
  (`ThrowsDescribed`), so that the level above can describe it.
* A description has no white space at its ends (`endsSolid_chainText`), so that the trimming at the
  levels above takes nothing away from it.

Nothing before the report asks for anything that the host could see (`Bridge.Unseen`).
-/

set_option autoImplicit false

namespace DecompilerBridge

open Script (Interpreter Engine Evaluator Store Value Expr Stmt Statements Object Ref Frame Scope
  Routine Owner Class Intrinsic opensStrict hoisted jsonInterpreter jsonInterpreter_readsEntry)
open Bridge (Unseen UnseenValue UnseenThrow)

variable {η : Type}

namespace Script

/-! ## Programs of a chain -/

/-- Calling `___internal_require` with a name. -/
def requiring (name : String) : Expr := .call (.read "___internal_require") [.ofString name]

/-- Throwing a new `Error`. -/
def throwing (message : String) : Stmt := .raise (.construct (.read "Error") [.ofString message])

/-- Modules that only require one another, in order, down to the last one, which throws a new
`Error`. -/
def Interpreter.Chains (i : Interpreter) (resolver : Resolver) (message : String) :
    String → List String → Prop
  | name, [] => i.program? resolver .require name = some [throwing message]
  | name, next :: rest =>
    i.program? resolver .require name = some [.expr (requiring next)] ∧
      i.Chains resolver message next rest

/-- The description of the error that comes out of a chain of modules. -/
def chainText (message : String) : List String → String
  | [] => Text.trim ("Error: " ++ message)
  | name :: rest => "EvalError: " ++ name ++ ".js: " ++ chainText message rest

/-- The description has no white space at its end. -/
theorem endsSolid_chainText (message : String) (names : List String) :
    Text.EndsSolid (chainText message names) := by
  induction names with
  | nil =>
    have mem : ':' ∈ ("Error: " ++ message).toList := by simp
    exact Text.endsSolid_trim mem (by decide)
  | cons name rest ih => exact ih.append _

/-- So trimming takes nothing off the description of the error for its file. -/
theorem trim_evalError (name : String) {text : String} (solid : Text.EndsSolid text) :
    Text.trim (ErrorClass.evalError.name ++ ": " ++ (name ++ ".js" ++ ": " ++ text)) =
      "EvalError: " ++ name ++ ".js: " ++ text := by
  have lead : ErrorClass.evalError.name ++ ": " = "EvalError: " := by decide
  have file : name ++ ".js" ++ ": " = name ++ ".js: " := String.append_assoc ..
  have chars : ("EvalError: " ++ (name ++ ".js: " ++ text)).toList =
      'E' :: ("valError: ".toList ++ (name ++ ".js: " ++ text).toList) := by
    rw [String.toList_append]
    rfl
  rw [lead, file, Text.trim_of_solid chars (by decide) ((solid.append _).append _),
    ← String.append_assoc, ← String.append_assoc]

/-! ## Engines in which modules can be required -/

/-- An engine in which scripts can require modules and see the errors of the language, as they do in
a new one. -/
structure Engine.Requires (engine : Engine) : Prop where
  unbounded : engine.Unbounded
  unaltered : engine.altered = []
  native : engine.Holds "___internal_require" (Owner.global.method "___internal_require")
  error : engine.Holds "Error" (.object (.constructor (.error .error)))
  evalError : engine.Holds "EvalError" (.object (.constructor (.error .evalError)))

namespace Engine.Requires

variable {engine : Engine}

/-- It depends on the bounds and on the globals. -/
theorem of_same {other : Engine} (requires : engine.Requires)
    (timeout : other.timeout = engine.timeout) (stack : other.stack = engine.stack)
    (altered : other.altered = engine.altered) (global : other.global = engine.global) :
    other.Requires := by
  have holds : ∀ {name v}, engine.Holds name v → other.Holds name v := by
    intro name v held
    rwa [Store.Holds, global]
  exact
    { unbounded :=
        ⟨timeout.trans requires.unbounded.untimed, stack.trans requires.unbounded.unstacked⟩
      unaltered := altered.trans requires.unaltered
      native := holds requires.native
      error := holds requires.error
      evalError := holds requires.evalError }

/-- An engine that looks at the clock can still require modules. -/
theorem tick (requires : engine.Requires) : engine.tick.Requires := requires.of_same rfl rfl rfl rfl

/-- So can one with a new object. -/
theorem allocate (requires : engine.Requires) (o : Object) :
    (engine.withStore (engine.toStore.allocate o).2).Requires := requires.of_same rfl rfl rfl rfl

/-- So can one inside a call. -/
theorem pushFrame (requires : engine.Requires) (frame : Frame) :
    (engine.withStore (engine.toStore.pushFrame frame).2).Requires :=
  requires.of_same rfl rfl rfl rfl

/-- So can one at any depth of files. -/
theorem atLevel (requires : engine.Requires) (level : Nat) :
    Engine.Requires { engine with nesting := level } := requires.of_same rfl rfl rfl rfl

/-- So can one with any stack left. -/
theorem withLeft (requires : engine.Requires) (left : Nat) :
    Engine.Requires { engine with left := left } := requires.of_same rfl rfl rfl rfl

/-- A driver that only defines the entry function takes nothing away that requiring needs. -/
theorem of_onlyDefines {i : Interpreter} {body : List Stmt} (defines : engine.OnlyDefines i body) :
    engine.Requires where
  unbounded := defines.unbounded
  unaltered := defines.unaltered
  native := defines.others (by decide) ⟨_, rfl, rfl⟩
  error := defines.others (by decide) ⟨_, rfl, rfl⟩
  evalError := defines.others (by decide) ⟨_, rfl, rfl⟩

/-- Scripts see the constructor of the language. -/
theorem hasEvalError (requires : engine.Requires) : engine.HasEvalError where
  held := by
    obtain ⟨p, own, slot⟩ := requires.evalError
    have found : (engine.object .global).own? (.name "EvalError") = some p := own
    rw [Store.held?, found, Option.bind_some, Property.value?, slot]
  builtin := by
    have initial : engine.object (.constructor (.error .evalError)) =
        Intrinsic.initial (.holder (.constructor (.error .evalError))) :=
      Store.object_intrinsic requires.unaltered nofun
    rw [initial]
    rfl

end Engine.Requires

/-- An error whose name, stack and message are plain texts. -/
structure Store.PlainError (store : Store) (r : Ref) (name stack message : String) : Prop where
  error : store.isError (.object r) = true
  name : store.Reads r "name" (Value.ofString name)
  stack : store.Reads r "stack" (Value.ofString stack)
  message : store.Reads r "message" (Value.ofString message)

/-- A new error reads as its class and its message do. -/
theorem Store.plainError_of_new {store : Store} {r : Ref} {cls : ErrorClass} {message : String}
    (made : store.object r = .newError cls message) (unaltered : store.altered = []) :
    store.PlainError r cls.name Object.stackText message where
  error := by
    rw [Store.isError, made]
    rfl
  name := by
    have own : (Object.newError cls message).own? (.name "name") = none := rfl
    have initial : store.object (.prototype (.error cls)) =
        Intrinsic.initial (.holder (.prototype (.error cls))) :=
      Store.object_intrinsic unaltered nofun
    refine ⟨.quiet (Value.ofString cls.name), ?_, rfl⟩
    -- the error has no name of its own, and its prototype has that of the class
    show store.along (.name "name") (store.heap.size + 4 * store.altered.length + 6 + 1 + 1)
      (some r) = _
    rw [Store.along, made]
    simp only [own]
    show store.along _ _ (some (.prototype (.error cls))) = _
    rw [Store.along, initial]
    rfl
  stack := by
    refine ⟨.quiet (Value.ofString Object.stackText), Store.property?_of_own ?_, rfl⟩
    rw [made]
    rfl
  message := by
    refine ⟨.quiet (Value.ofString message), Store.property?_of_own ?_, rfl⟩
    rw [made]
    rfl

namespace Eval

variable {i : Interpreter} {resolver : Resolver} {natives : Natives Engine Value} {self : Evaluator}
  {engine : Engine} {scope : Scope}

/-! ## Errors on their way through a chain -/

/-- What has been thrown since an engine was as it was at the start is an error with a description,
and scripts can go on requiring modules. -/
structure ThrowsDescribed (text : String) (start : Engine) (v : Value) (after : Live Engine) :
    Prop where
  unparked : after.parked = none
  requires : after.state.Requires
  bounds : SameBounds start after.state
  error : ∃ r name stack message, v = .object r ∧ after.state.PlainError r name stack message ∧
    text = Text.trim (name ++ ": " ++ message)

/-- It has been thrown since any earlier engine with the same bounds. -/
theorem throws_since {α : Type} {x : Bridge Engine Value α} {live : Live Engine} {text : String}
    {start earlier : Engine} (throws : UnseenThrow x live (ThrowsDescribed text start))
    (bounds : SameBounds earlier start) :
    UnseenThrow x live (ThrowsDescribed text earlier) :=
  throws.mono fun _ _ ⟨v, ended, thrown⟩ =>
    ⟨v, ended, { thrown with bounds := bounds.trans thrown.bounds }⟩

/-- A new error is described by its class and its message. -/
theorem throwsDescribed_new (requires : engine.Requires) (cls : ErrorClass) (message : String) :
    ThrowsDescribed (Text.trim (cls.name ++ ": " ++ message)) engine
      (.object (engine.allocate (.newError cls message)).1)
      ⟨engine.withStore (engine.allocate (.newError cls message)).2, none⟩ where
  unparked := rfl
  requires := requires.allocate _
  bounds := ⟨rfl, rfl, rfl, rfl⟩
  error := ⟨_, _, _, _, rfl,
    Store.plainError_of_new (engine.toStore.object_allocate_self _) requires.unaltered, rfl⟩

/-- The description of such an error leaves a record of its stack. -/
theorem describeThrown_unseen (i : Interpreter) {text : String} {start : Engine} {v : Value}
    {live : Live Engine} (thrown : ThrowsDescribed text start v live) :
    UnseenValue (i.engine.describeThrown natives v) live fun shown after =>
      shown = text ∧ after = live := by
  obtain ⟨r, name, stack, message, rfl, plain, rfl⟩ := thrown.error
  have read : (i.engine.thrownText natives (.object r : Value)).run live = (do
      Bridge.log (.debug ("script stack:\n" ++ stack))
      pure (name ++ ": " ++ message) : Bridge Engine Value String).run live :=
    ScriptEngine.thrownText_error (i.plainError plain.error plain.name plain.stack plain.message)
  refine .of_run_eq (congrArg (fun x : Bridge Engine Value String => x.run live)
    (ScriptEngine.describeThrown_eq ..)) ?_
  refine .bind (.of_run_eq read (.bind (.log _ ⟨(), rfl, .of_run rfl ⟨_, rfl, ?_⟩⟩)))
  exact .of_run rfl ⟨_, rfl, rfl, rfl⟩

/-- With stack for one more call, the last module of a chain throws a described error. -/
theorem throwing_throws (requires : engine.Requires) (message : String)
    (hidden : engine.findLocal "Error" scope.frames = none) :
    UnseenThrow (Bridge.within natives (runBlock (.deeper self) scope [throwing message]))
      ⟨engine, none⟩ (ThrowsDescribed (Text.trim ("Error: " ++ message)) engine) := by
  have read := Routine.readVariable_run hidden requires.error
  have args := evalAll_texts scope [message] engine.toStore
  have initial : engine.object (.constructor (.error .error)) =
      Intrinsic.initial (.holder (.constructor (.error .error))) :=
    Store.object_intrinsic requires.unaltered nofun
  have kind : (engine.tick.object (.constructor (.error .error))).kind =
      .builtin (.holder (.constructor (.error .error))) := congrArg Object.kind initial
  have makes : ((Class.error .error).constructed [Value.ofString message]).run
      engine.tick.toStore = .done (.ok (.object (engine.allocate (.newError .error message)).1),
        (engine.allocate (.newError .error message)).2) := rfl
  have made : (constructStep self (.object (.constructor (.error .error)))
      [Value.ofString message]).run engine =
      .done (.ok (.object (engine.allocate (.newError .error message)).1),
        engine.tick.withStore (engine.allocate (.newError .error message)).2) := by
    rewrite [constructStep, run_bind_of_done (poll_run requires.unbounded.untimed), run_get_bind,
      kind]
    exact Routine.eval_run makes
  have value : (((Expr.construct (.read "Error") [.ofString message]).eval scope).eval
      (.deeper self)).run engine =
      .done (.ok (.object (engine.allocate (.newError .error message)).1),
        engine.tick.withStore (engine.allocate (.newError .error message)).2) := by
    rw [Expr.eval, Expr.eval, Routine.eval_bind, run_bind_of_done (Routine.eval_reads read),
      Routine.eval_bind,
      show [Expr.ofString message] = [message].map fun w => Expr.ofString w from rfl,
      run_bind_of_done (Routine.eval_reads args), Routine.eval_construct]
    exact made
  rw [runBlock, throwing, Stmt.run]
  refine .within_bind_throw (.within_step value (.of_run rfl ⟨_, rfl, ?_⟩))
  exact { throwsDescribed_new requires.tick .error message with bounds := ⟨rfl, rfl, rfl, rfl⟩ }

/-- Requiring a module calls what the bridge has put there for it. -/
theorem requiring_run (requires : engine.Requires) {name : String}
    (hidden : engine.findLocal "___internal_require" scope.frames = none) :
    (((requiring name).eval scope).eval self).run engine =
      (self.call (Owner.global.method "___internal_require") .undefined [Value.ofString name]).run
        engine := by
  have read := Routine.readVariable_run hidden requires.native
  have args := evalAll_texts scope [name] engine.toStore
  rw [requiring, Expr.eval, Expr.eval, Routine.eval_bind,
    run_bind_of_done (Routine.eval_reads read), Routine.eval_bind]
  · rw [show [Expr.ofString name] = [name].map fun w => Expr.ofString w from rfl,
      run_bind_of_done (Routine.eval_reads args), Routine.eval_call]
    rfl
  · intro object member same
    cases same

/-- That is the native, which runs with the stack that is left below the call. -/
theorem requireCall_run (requires : engine.Requires) (name : String) :
    ((Evaluator.deeper self).call (Owner.global.method "___internal_require") .undefined
        [Value.ofString name]).run engine =
      (callNative self.left .require [Value.ofString name]).run engine.tick :=
  callStep_intrinsic requires.unbounded.untimed (kind_intrinsic requires.unaltered _ _) _ _

/-- A piece of script that only requires a module throws what the native throws. -/
theorem requiring_throws (requires : engine.Requires) {name text : String}
    (hidden : engine.findLocal "___internal_require" scope.frames = none)
    (throws : ∀ inner : Engine, inner.Requires → inner.nesting = engine.nesting →
      inner.left = self.left → UnseenThrow (natives .require [Value.ofString name]) ⟨inner, none⟩
        (ThrowsDescribed text inner)) :
    UnseenThrow (Bridge.within natives (runBlock (.deeper self) scope [.expr (requiring name)]))
      ⟨engine, none⟩ (ThrowsDescribed text engine) := by
  have calls : (((requiring name).eval scope).eval (.deeper self)).run engine =
      (callNative self.left .require [Value.ofString name]).run engine.tick :=
    (requiring_run requires hidden).trans (requireCall_run requires name)
  rw [runBlock_expr]
  refine .within_bind_throw (.within_native_throw calls
    ((throws _ (requires.tick.withLeft self.left) rfl rfl).mono ?_))
  -- the caller has the stack that it had
  rintro _ ⟨after, parked⟩ ⟨v, rfl, thrown⟩
  refine ⟨v, rfl, _, rfl, thrown.unparked, thrown.requires.withLeft _, ?_, thrown.error⟩
  exact ⟨thrown.bounds.timeout, thrown.bounds.stack, rfl, thrown.bounds.nesting⟩

/-- A file throws what its script throws, and is over then. -/
theorem file_throws (requires : engine.Requires) (shallow : engine.nesting < i.files)
    {source text : String}
    (throws : let opened : Engine := { engine with nesting := engine.nesting + 1 }
      UnseenThrow (Bridge.within natives
        (runScript (.withStack i.rounds engine.left) (i.compile source))) ⟨opened, none⟩
        (ThrowsDescribed text opened)) :
    UnseenThrow (Bridge.within natives (i.evaluate source)) ⟨engine, none⟩
      (ThrowsDescribed text engine) := by
  refine .within_of_run_eq (Interpreter.evaluate_run requires.unbounded shallow source)
    (.andThen (within_nested _) (throws.mono ?_))
  rintro _ ⟨after, parked⟩ ⟨v, rfl, thrown⟩
  exact ⟨trivial, v, rfl, thrown.unparked, thrown.requires.atLevel _,
    ⟨thrown.bounds.timeout, thrown.bounds.stack, thrown.bounds.left, rfl⟩, thrown.error⟩

/-- A file that hoists nothing throws what its code throws. -/
theorem evaluate_throws (requires : engine.Requires) (shallow : engine.nesting < i.files)
    {source text : String} {program : Statements} (compiled : i.compile source = .ok program)
    (plain : hoisted program = [])
    (throws : ∀ inner : Engine, inner.Requires → inner.nesting = engine.nesting + 1 →
      inner.left = engine.left →
      UnseenThrow (Bridge.within natives (runBlock (.withStack i.rounds engine.left)
        { strict := opensStrict program } program)) ⟨inner, none⟩ (ThrowsDescribed text inner)) :
    UnseenThrow (Bridge.within natives (i.evaluate source)) ⟨engine, none⟩
      (ThrowsDescribed text engine) := by
  refine file_throws requires shallow ?_
  intro opened
  have requiresThen : opened.Requires := requires.atLevel _
  have hoists : (hoist (.withStack i.rounds engine.left) (opensStrict program) program).run
      opened.tick = .done (.ok (), opened.tick) := by
    rw [hoist, plain]
    rfl
  rw [compiled]
  have split : (runScript (.withStack i.rounds engine.left) (.ok program)).run opened = _ :=
    runScript_run requiresThen.unbounded.untimed program
  exact .within_of_run_eq split (.within_step hoists (.within_bind_throw
    (throws_since (throws _ requiresThen.tick rfl rfl) ⟨rfl, rfl, rfl, rfl⟩)))

/-- With stack for one more call, the error for a module has the message that it is given. -/
theorem throwEval_run (i : Interpreter) (requires : engine.Requires) (room : 0 < engine.left)
    (message : String) :
    (i.engine.throwEval natives message : Bridge Engine Value Value).run ⟨engine, none⟩ =
      .done (.error (.thrown (.object (engine.allocate (.newError .evalError message)).1)),
        ⟨engine.tick.withStore (engine.allocate (.newError .evalError message)).2, none⟩) := by
  obtain ⟨read, constructs⟩ := i.evalError_read requires.hasEvalError
  have made := i.evalError_made room (poll_run requires.unbounded.untimed)
    requires.tick.hasEvalError message
  exact Bridge.throwEval_run_of_made read constructs rfl made natives

/-- A required module that throws a described error makes the native throw a new `EvalError`, which
has the name of the file and the description as its message. -/
theorem require_described (requires : engine.Requires) (shallow : engine.nesting < i.files)
    (room : 0 < engine.left) {name text : String} {program : Statements}
    (has : i.program? resolver .require name = some program) (plain : hoisted program = [])
    (solid : Text.EndsSolid text)
    (throws : ∀ inner : Engine, inner.Requires → inner.nesting = engine.nesting + 1 →
      inner.left = engine.left →
      UnseenThrow (Bridge.within natives (runBlock (.withStack i.rounds engine.left)
        { strict := opensStrict program } program)) ⟨inner, none⟩ (ThrowsDescribed text inner)) :
    UnseenThrow ((i.machine resolver).nativeRequire natives [Value.ofString name]) ⟨engine, none⟩
      (ThrowsDescribed ("EvalError: " ++ name ++ ".js: " ++ text) engine) := by
  obtain ⟨found, looked, clean, compiled⟩ := Interpreter.file_of_program? has
  have named : found.file = name ++ ".js" := Resolver.file_of_read looked
  have given : i.engine.argument? engine [Value.ofString name] = some name := by
    show (i.engine.text? engine (Value.ofString name)).bind Except.toOption = _
    rw [(i.isText engine name).spelled]
    rfl
  have evaluated : UnseenValue (i.engine.evaluateText natives found.text) ⟨engine, none⟩
      fun ended after => ∃ v, ended = .error (.exception v) ∧ ThrowsDescribed text engine v after :=
    ScriptEngine.evaluateText_unseen_throw clean
      ((evaluate_throws requires shallow compiled plain throws).mono
        fun _ _ ⟨v, ended, thrown⟩ => ⟨v, ended, thrown.unparked, thrown⟩)
  have failure : UnseenValue ((i.machine resolver).requireFailure natives name) ⟨engine, none⟩
      fun result after => result = some (name ++ ".js" ++ ": " ++ text) ∧ after.parked = none ∧
        after.state.Requires ∧ SameBounds engine after.state := by
    refine .bind (Machine.lookUp_unseen _ _ ⟨_, rfl, ?_⟩)
    rw [show ((i.machine resolver).resolver.read .require name).1 = .ok found from looked]
    refine .bind (.log _ ⟨(), rfl, .bind (evaluated.mono ?_)⟩)
    rintro _ after ⟨_, rfl, v, rfl, thrown⟩
    refine ⟨_, rfl, .bind ((describeThrown_unseen i thrown).mono ?_)⟩
    rintro _ _ ⟨_, rfl, rfl, rfl⟩
    exact ⟨_, rfl, .of_run rfl ⟨_, rfl, by rw [named], thrown.unparked, thrown.requires,
      thrown.bounds⟩⟩
  refine .of_run_eq (Machine.nativeRequire_run given) (.bind (failure.mono ?_))
  rintro _ ⟨failed, parked⟩ ⟨_, rfl, rfl, unparked, later, bounds⟩
  obtain rfl : parked = none := unparked
  refine ⟨_, rfl, .of_run (throwEval_run i later (bounds.left.symm ▸ room) _) ⟨_, rfl, ?_⟩⟩
  have thrown := throwsDescribed_new later.tick .evalError (name ++ ".js" ++ ": " ++ text)
  rw [trim_evalError name solid] at thrown
  exact { thrown with bounds := ⟨bounds.timeout, bounds.stack, bounds.left, bounds.nesting⟩ }

/-- What comes out of a chain of modules is an error that names every file on its way. Every module
takes one call, one file and one native. -/
theorem chain_throws {message name : String} {rest : List String}
    (chain : i.Chains resolver message name rest) (requires : engine.Requires)
    (shallow : engine.nesting + rest.length < i.files) (room : rest.length < engine.left)
    {depth : Nat} (deep : rest.length < depth) :
    UnseenThrow ((i.machine resolver).nativesWithin depth .require [Value.ofString name])
      ⟨engine, none⟩ (ThrowsDescribed (chainText message (name :: rest)) engine) := by
  obtain ⟨depth, rfl⟩ := Nat.exists_eq_succ_of_ne_zero (Nat.ne_zero_of_lt deep)
  obtain ⟨left, same⟩ := Nat.exists_eq_succ_of_ne_zero (Nat.ne_zero_of_lt room)
  -- over the modules, from the first to the last
  induction rest generalizing name engine depth left with
  | nil =>
    refine require_described requires shallow room chain rfl (endsSolid_chainText _ []) ?_
    intro inner requires _ _
    rw [same]
    exact throwing_throws requires message rfl
  | cons next rest ih =>
    obtain ⟨has, chain⟩ := chain
    have longer : (next :: rest).length = rest.length + 1 := rfl
    refine require_described requires (by omega) (by omega) has rfl (endsSolid_chainText ..) ?_
    intro inner requires level _
    rw [same]
    refine requiring_throws requires rfl fun deeper requires levelThen leftThen => ?_
    rw [Evaluator.left_withStack] at leftThen
    obtain ⟨depth, rfl⟩ := Nat.exists_eq_succ_of_ne_zero (n := depth) (by omega)
    obtain ⟨below, sameThen⟩ := Nat.exists_eq_succ_of_ne_zero (n := deeper.left) (by omega)
    exact ih chain requires (by omega) (by omega) depth (by omega) below sameThen

/-! ## The entry call -/

/-- An entry function that only requires a module throws what the native throws. -/
theorem entry_throws (requires : engine.Requires) {n : Nat} {name : String} {index : Nat}
    {strict : Bool}
    (kind : (engine.object (.made n)).kind = .function (.body name index) { strict := strict })
    {required text : String} (body : engine.bodies.getD index [] = [.expr (requiring required)])
    {list : Value}
    (throws : ∀ inner : Engine, inner.Requires → inner.nesting = engine.nesting →
      inner.left = self.left → UnseenThrow (natives .require [Value.ofString required])
        ⟨inner, none⟩ (ThrowsDescribed text inner)) :
    UnseenThrow (Bridge.within natives
      (callStep (.deeper self) (.object (.made n)) .undefined [list])) ⟨engine, none⟩
      (ThrowsDescribed text engine) := by
  obtain ⟨receiver, entered⟩ := callStep_body requires.unbounded.untimed kind body [list]
  -- none of the variables of the call hides the native
  let called : Frame := callVariables (givenVariables receiver [list] (.made engine.heap.size))
    [.expr (requiring required)]
  have requiresThen := (requires.tick.allocate (.ofArguments (.object (.made n)) [list])).pushFrame
    called
  refine .within_of_run_eq entered (.within_bind_throw
    (throws_since (requiring_throws requiresThen ?_ throws) ⟨rfl, rfl, rfl, rfl⟩))
  exact Store.findLocal_pushFrame (engine.allocate (.ofArguments (.object (.made n)) [list])).2
    called rfl

end Eval

/-- The stack of an interpreter has room for a chain of some modules: each is a file inside the one
of the entry expression, and a call inside those of the entry function and of the native. -/
structure Interpreter.RoomFor (i : Interpreter) (modules : Nat) : Prop where
  files : modules < i.files
  levels : modules + 2 ≤ i.levels

/-- The entry call of a package with a chain of modules throws an error that names them. -/
theorem Interpreter.entry_throws {i : Interpreter} {resolver : Resolver} {message name : String}
    {rest : List String} (reads : i.ReadsEntry) (room : i.RoomFor (name :: rest).length)
    (chain : i.Chains resolver message name rest) {engine : Engine}
    (defines : engine.OnlyDefines i [.expr (requiring name)]) (args : String) :
    UnseenThrow (Invocation.entry (i.machine resolver) args) ⟨engine, none⟩
      (Eval.ThrowsDescribed (chainText message (name :: rest)) engine) := by
  obtain ⟨files, levels⟩ := room
  rw [List.length_cons] at files levels
  obtain ⟨left, whole⟩ := Nat.exists_eq_add_of_le' (Nat.le_of_add_left_le levels)
  obtain ⟨n, kept, index, strict, old, holds, kind, body⟩ := defines.entry
  have outermost := defines.outermost
  have self : Evaluator.withStack i.rounds engine.left =
      .deeper (.deeper (.withStack i.rounds left)) := by
    rw [defines.whole, whole]
    rfl
  refine Eval.file_throws (.of_onlyDefines defines) (by omega) ?_
  intro opened
  have requires : opened.Requires := (Engine.Requires.of_onlyDefines defines).atLevel _
  rw [reads.compile_expression, self]
  -- the list of the words is a new object, so the entry function is still the one it was
  have kindThen := (congrArg Object.kind (Store.object_allocate_of_lt opened.toStore
    (.ofItems ((Text.words args).map Value.ofString)) old)).trans kind
  have split : (Eval.runScript (.deeper (.deeper (.withStack i.rounds left)))
      (.ok (entryScript (Text.words args) Entry.missingText))).run opened = _ :=
    Eval.entryScript_calls requires.unbounded.untimed holds kind _ _
  refine .within_of_run_eq split (.within_bind_throw (Eval.throws_since (Eval.entry_throws
    (requires.tick.tick.allocate _) kindThen body fun inner requires levelThen leftThen => ?_)
    ⟨rfl, rfl, rfl, rfl⟩))
  rw [Evaluator.left_withStack] at leftThen
  have levelInner : inner.nesting = engine.nesting + 1 := levelThen
  exact Eval.chain_throws chain requires (by omega) (by omega)
    (show rest.length < i.levels by omega)

end Script

namespace Invocation

open Script (requiring chainText)
open Script.Eval (ThrowsDescribed describeThrown_unseen)

/-- A thrown value that is described by some text is reported by it. -/
theorem verdict_thrown (m : Machine) (v : m.engine.Value) :
    (Except.ok <$> verdict m (.thrown v) : m.Work (Except String (Except ScriptError Unit))) =
      m.engine.describeThrown m.natives v >>= fun detail =>
        (fun e => .ok (.error e)) <$> printed m (Entry.functionName ++ ": " ++ detail) := by
  rw [verdict, report_eq]
  simp only [map_bind, Functor.map_map]
  rfl

/-- A failure that is told of ends the work, unless the host panics. -/
theorem failed_ends (m : Machine) (shown : String) (live : Live m.engine.State) :
    ((fun e => Except.ok (Except.error e)) <$> printed m shown :
        m.Work (Except String (Except ScriptError Unit))).run live |>.Ends fun ended =>
      ended.1 = .ok (.ok (.error (.evaluation shown))) ∨ ∃ p, ended.1 = .error (.unwound p) := by
  rw [Bridge.map_run, printed_run]
  intro _ r
  cases r with
  | ok _ => exact .inl rfl
  | error p => exact .inr ⟨p, rfl⟩

/-- Its line is all that is handed to the host. -/
theorem failed_handed (m : Machine) (shown : String) (live : Live m.engine.State)
    (channel : Option (HostChannel η)) (w : World η) :
    handed (((fun e => Except.ok (Except.error e)) <$> printed m shown :
        m.Work (Except String (Except ScriptError Unit))).run live |>.trail
          (World.answer channel) w) =
      [.print ("Error: " ++ shown ++ "\n") w.scripts.state] := by
  rw [Bridge.trail_map]
  exact printed_handed m shown live channel w

/-- A described error is told of by its description, after a record of its stack. -/
theorem verdict_described (i : Interpreter) {resolver : Resolver} {text : String} {start : Engine}
    {v : Value} {called : Live Engine} (thrown : ThrowsDescribed text start v called)
    (channel : Option (HostChannel η)) (w : World η) :
    let m := i.machine resolver
    let verdict : m.Work (Except String (Except ScriptError Unit)) := .ok <$> verdict m (.thrown v)
    let told : m.Work (Except String (Except ScriptError Unit)) :=
      (fun e => .ok (.error e)) <$> printed m (Entry.functionName ++ ": " ++ text)
    ∃ there, there.scripts.state = w.scripts.state ∧
      (verdict.run called).drive (World.answer channel) w =
        (told.run called).drive (World.answer channel) there ∧
      handed ((verdict.run called).trail (World.answer channel) w) =
        handed ((told.run called).trail (World.answer channel) there) := by
  intro m verdict told
  obtain ⟨r, kind, stack, message, rfl, plain, rfl⟩ := thrown.error
  have read : (m.engine.thrownText m.natives (.object r : Value)).run called =
      .ask (.log (.debug ("script stack:\n" ++ stack))) fun _ =>
        .done (.ok (kind ++ ": " ++ message), called) :=
    ScriptEngine.thrownText_error (i.plainError plain.error plain.name plain.stack plain.message)
  have comes : ((m.engine.thrownText m.natives (.object r : Value)).run called).drive
      (World.answer channel) w = (.ok (.ok (kind ++ ": " ++ message), called),
        w.note (.debug ("script stack:\n" ++ stack))) := by
    rw [read]
    rfl
  have quiet : handed (((m.engine.thrownText m.natives (.object r : Value)).run called).trail
      (World.answer channel) w) = [] := by
    rw [read]
    rfl
  obtain ⟨described, asked⟩ := ScriptEngine.describeThrown_drive comes
  obtain ⟨goesOn, parts⟩ := Bridge.drive_bind_of_value described fun detail =>
    ((fun e => .ok (.error e)) <$> printed m (Entry.functionName ++ ": " ++ detail) :
      m.Work (Except String (Except ScriptError Unit)))
  have split : verdict.run called = _ :=
    congrArg (fun x : m.Work (Except String (Except ScriptError Unit)) => x.run called)
      (verdict_thrown m (.object r : Value))
  refine ⟨w.note (.debug ("script stack:\n" ++ stack)), rfl, ?_, ?_⟩
  · rw [split]
    exact goesOn
  · rw [split, parts, handed_append, asked, quiet, List.nil_append]

variable {i : Interpreter} {resolver : Resolver} {message name : String} {rest : List String}

/-- The work of an engine of such a package tells of the failure, which is all that the host can
see. -/
theorem session_tells_chain (reads : i.ReadsEntry) (room : i.RoomFor (name :: rest).length)
    (driver : i.program? resolver .load driverFile =
      some [.define Entry.functionName [.expr (requiring name)]])
    (chain : i.Chains resolver message name rest) (args : String) (readings : Readings)
    (channel : Option (HostChannel η)) (w : World η) :
    let m := i.machine resolver
    let told : m.Work (Except String (Except ScriptError Unit)) := (fun e => .ok (.error e)) <$>
      printed m (Entry.functionName ++ ": " ++ chainText message (name :: rest))
    let work := (session m args).run ⟨i.newEngine {} readings, none⟩
    ∃ called there, there.scripts.state = .entryInvoked ∧
      work.drive (World.answer channel) w = (told.run called).drive (World.answer channel) there ∧
      handed (work.trail (World.answer channel) w) =
        handed ((told.run called).trail (World.answer channel) there) := by
  intro m told work
  have opens := Interpreter.opening_unseen (loadDriver_defines (Nat.zero_lt_of_lt room.files) driver
    readings)
  obtain ⟨_, ⟨engine, parked⟩, mid, ⟨rfl, unparked, defines⟩, -, first, firstHands⟩ :=
    opens.drive_bind (afterOpening m args) channel w
  rw [afterOpening_ok] at first firstHands
  obtain rfl : parked = none := unparked
  have attempts : UnseenValue (Bridge.attempt (entry m args)) ⟨engine, none⟩ fun ending after =>
      ∃ v, ending = .thrown v ∧
        ThrowsDescribed (chainText message (name :: rest)) engine v after := by
    refine .attempt_throw ((Interpreter.entry_throws reads room chain defines args).mono ?_)
    rintro _ after ⟨v, rfl, thrown⟩
    exact ⟨v, rfl, thrown.unparked, _, rfl, v, rfl, thrown⟩
  obtain ⟨_, called, late, ⟨v, rfl, thrown⟩, -, second, secondHands⟩ :=
    attempts.drive_bind (afterCall m) channel mid
  obtain ⟨there, state, third, thirdHands⟩ := verdict_described i thrown channel
    (late.enter .entryInvoked)
  have split : work = (opening m >>= afterOpening m args).run ⟨i.newEngine {} readings, none⟩ :=
    congrArg (fun x : m.Work (Except String (Except ScriptError Unit)) =>
      x.run ⟨i.newEngine {} readings, none⟩) (session_eq m args)
  refine ⟨called, there, state, ?_, ?_⟩
  · rw [split]
    exact first.trans (second.trans third)
  · rw [split]
    exact firstHands.trans (secondHands.trans thirdHands)

end Invocation

namespace ScriptHost

open Script (requiring throwing chainText)

variable {s : Setup} {h : Host η} {args : String} {w : World η}

/-- A run without limits whose entry function only requires the first of a chain of modules, the
last of which throws a new `Error`, returns a failed evaluation that names the file of every module,
in order, in front of the description of the error. Its line is the only text that is printed, and a
host that is in use when the run starts does not get even that. -/
theorem module_chain_named {i : Interpreter} (reads : i.ReadsEntry) (resolver : Resolver)
    (policy : FatalPolicy) (clock : Nat) (h : Host η) (args : String) (w : World η)
    (message name : String) (rest : List String) (room : i.RoomFor (name :: rest).length)
    (driver : i.program? resolver .load driverFile =
      some [.define Entry.functionName [.expr (requiring name)]])
    (chain : i.Chains resolver message name rest) (unlinked : w.scripts.isLinked = false)
    (served : Serves (i.package resolver policy clock) h args w) :
    let s := i.package resolver policy clock
    let detail := "r2dec_main: " ++ chainText message (name :: rest)
    (run s (some (h.channel s)) args w).1 = .finished (.error (.evaluation detail)) ∧
      received s h args w =
        if w.borrowed then [] else [.print ("Error: " ++ detail ++ "\n") .entryInvoked] := by
  intro s detail
  have opens := i.package_opens resolver policy clock (w.readings 0)
  obtain ⟨ended, live, after, driven, ends⟩ := served.session_ends opens
  obtain ⟨called, there, state, tells, told⟩ :=
    Invocation.session_tells_chain reads room driver chain args (w.readings 0)
      (some (h.channel s)) (started w)
  -- the report is the end of the work, since the host takes the line
  obtain rfl : ended = .ok (.ok (.error (.evaluation detail))) := by
    rcases (Invocation.failed_ends (i.machine resolver) detail called).of_drive
      (tells.symm.trans driven) with shown | ⟨p, unwound⟩
    · exact shown
    · dsimp only at unwound
      rcases ends with rfl | rfl | ⟨_, rfl⟩ <;> cases unwound
  obtain ⟨result, hands⟩ := run_of_session unlinked opens driven
  refine ⟨result, ?_⟩
  cases held : w.borrowed with
  | true => exact received_in_use held
  | false =>
    have going : (run s (some (h.channel s)) args w).1.halt? = none := by
      rw [result]
      rfl
    have printed := Invocation.failed_handed (i.machine resolver) detail called
      (some (h.channel s)) there
    rw [state] at printed
    exact ((received_handed held unlinked).2 going).trans (hands.trans (told.trans printed))

/-! ### Two modules -/

/-- A package whose entry function requires a module that requires another one, which throws. -/
def chained : Resolver where
  base := .fixed "/"
  files := { members := [
    ("require.js", .file
      "[[\"def\",\"r2dec_main\",[[\"do\",[\"require\",\"a\"]]]]]".toUTF8.toList),
    ("a.js", .file "[[\"do\",[\"require\",\"b\"]]]".toUTF8.toList),
    ("b.js", .file "[[\"throw\",[\"err\",\"Error\",\"né \"]]]".toUTF8.toList)] }

/-- Whether two expressions are one call with one text. -/
def sameCall : Expr → Expr → Bool
  | .call (.read f) [.text s], .call (.read g) [.text t] => decide (f = g ∧ s = t)
  | .construct (.read f) [.text s], .construct (.read g) [.text t] => decide (f = g ∧ s = t)
  | _, _ => false

/-- Whether two programs are one and the same program of a package with a chain of modules. -/
def sameProgram : Statements → Statements → Bool
  | [.expr a], [.expr b] => sameCall a b
  | [.raise a], [.raise b] => sameCall a b
  | [.define f [.expr a]], [.define g [.expr b]] => decide (f = g) && sameCall a b
  | _, _ => false

/-- Two calls that are found to be the same are equal. -/
theorem eq_of_sameCall {a b : Expr} (same : sameCall a b = true) : a = b := by
  unfold sameCall at same
  split at same
  · obtain ⟨rfl, rfl⟩ := of_decide_eq_true same
    rfl
  · obtain ⟨rfl, rfl⟩ := of_decide_eq_true same
    rfl
  · cases same

/-- Two programs that are found to be the same are equal. -/
theorem eq_of_sameProgram {p q : Statements} (same : sameProgram p q = true) : p = q := by
  unfold sameProgram at same
  split at same
  · rw [eq_of_sameCall same]
  · rw [eq_of_sameCall same]
  · obtain ⟨named, calls⟩ := Bool.and_eq_true_iff.1 same
    rw [of_decide_eq_true named, eq_of_sameCall calls]
  · cases same

/-- A module with a program that is found to be the same has this program. -/
theorem program?_of_same {i : Interpreter} {resolver : Resolver} {kind : ModuleKind} {name : String}
    {program : Statements}
    (same : (i.program? resolver kind name).any (sameProgram program) = true) :
    i.program? resolver kind name = some program := by
  obtain ⟨p, has, equal⟩ := (Option.any_eq_true ..).1 same
  rw [has, eq_of_sameProgram equal]

/-- The files of the package are a driver and a chain. -/
theorem chained_files :
    jsonInterpreter.program? chained .load driverFile =
        some [.define Entry.functionName [.expr (requiring "a")]] ∧
      jsonInterpreter.Chains chained "né " "a" ["b"] := by
  have evaluated : (jsonInterpreter.program? chained .load driverFile).any
        (sameProgram [.define Entry.functionName [.expr (requiring "a")]]) = true ∧
      (jsonInterpreter.program? chained .require "a").any
        (sameProgram [.expr (requiring "b")]) = true ∧
      (jsonInterpreter.program? chained .require "b").any
        (sameProgram [throwing "né "]) = true := by
    decide +kernel
  obtain ⟨driver, first, second⟩ := evaluated
  exact ⟨program?_of_same driver, program?_of_same first, program?_of_same second⟩

/-- The package with its interpreter. -/
def chainedPackage : Setup := jsonInterpreter.package chained .contain 1

/-- The names of both modules are told, and the white space at the end is not. -/
theorem module_chain_named_twice :
    jsonInterpreter.ReadsEntry ∧ jsonInterpreter.RoomFor ["a", "b"].length ∧
      jsonInterpreter.program? chained .load driverFile =
        some [.define Entry.functionName [.expr (requiring "a")]] ∧
      jsonInterpreter.Chains chained "né " "a" ["b"] ∧
      Serves chainedPackage calmHost "" { host := () } ∧
      (run chainedPackage (some (calmHost.channel chainedPackage)) "" { host := () }).1 =
        .finished (.error
          (.evaluation "r2dec_main: EvalError: a.js: EvalError: b.js: Error: né")) ∧
      received chainedPackage calmHost "" { host := () } = [.print
        "Error: r2dec_main: EvalError: a.js: EvalError: b.js: Error: né\n" .entryInvoked] := by
  have served : Serves chainedPackage calmHost "" { host := () } := by
    have evaluated : (requests chainedPackage calmHost "" { host := () }).all
        (servesAt chainedPackage calmHost) = true := by decide +kernel
    exact List.all_eq_true.1 evaluated
  have text : "r2dec_main: " ++ chainText "né " ["a", "b"] =
      "r2dec_main: EvalError: a.js: EvalError: b.js: Error: né" := by decide
  obtain ⟨driver, chain⟩ := chained_files
  have reads : jsonInterpreter.ReadsEntry := jsonInterpreter_readsEntry
  have room : jsonInterpreter.RoomFor ["a", "b"].length := ⟨by decide, by decide⟩
  have named :=
    module_chain_named reads chained .contain 1 calmHost "" { host := () } "né " "a" ["b"]
    room driver chain rfl served
  rw [text] at named
  exact ⟨reads, room, driver, chain, served, named⟩

/-- The line is not printed on a host that is in use when the run starts, and a host that panics as
it prints the line makes the run return the panic. -/
theorem module_chain_untold :
    jsonInterpreter.RoomFor ["a", "b"].length ∧
      jsonInterpreter.program? chained .load driverFile =
        some [.define Entry.functionName [.expr (requiring "a")]] ∧
      jsonInterpreter.Chains chained "né " "a" ["b"] ∧
      received chainedPackage calmHost "" { host := (), borrowed := true } = [] ∧
      (run chainedPackage (some (fragileHost.channel chainedPackage)) "" { host := false }).1 =
        .finished (.error (.fatal "gone")) := by
  obtain ⟨driver, chain⟩ := chained_files
  have panicked : (run chainedPackage (some (fragileHost.channel chainedPackage)) ""
      { host := false }).1 = .finished (.error (.fatal "gone")) := by
    decide +kernel
  exact ⟨⟨by decide, by decide⟩, driver, chain, received_in_use rfl, panicked⟩

end ScriptHost

end DecompilerBridge
