import DecompilerBridge.Proofs.Bridge.Rules
import DecompilerBridge.Script.Interpreter

/-!
# The layers of the interpreter

The interpreter is built in layers: the language's own code on the calls it makes, statements on
expressions, calls on statements, each level of the stack on the one below, and the operations that
the bridge uses on all of them. A property of computations that the few combinators at the bottom
keep goes all the way up (`Rules.withStack`, `Rules.operation`), and none of the layers has to be
looked at again for it.

`Rules` lists what has to be shown of a property. A property may be about engines of a certain kind
only (`Fits`).
-/

set_option autoImplicit false

namespace DecompilerBridge.Script

variable {α β : Type}

namespace Eval

/-! ## Sequences -/

/-- A sequence runs its first part, and its second part only after a value. -/
theorem run_bind (x : Eval α) (f : α → Eval β) (engine : Engine) :
    (x >>= f).run engine = (x.run engine).bind fun ended =>
      match ended.1 with
      | .ok a => (f a).run ended.2
      | .error stop => .done (.error stop, ended.2) := by
  show Interaction.bind (x.run engine) _ = _
  congr 1
  funext ⟨outcome, after⟩
  cases outcome <;> rfl

/-- A sequence whose first part asks for nothing goes on with the second. -/
theorem run_bind_of_done {x : Eval α} {f : α → Eval β} {engine after : Engine} {a : α}
    (given : x.run engine = .done (.ok a, after)) : (x >>= f).run engine = (f a).run after := by
  rw [run_bind, given]
  rfl

/-- A computation that looks at the engine first. -/
theorem run_get_bind (f : Engine → Eval β) (engine : Engine) :
    ((get : Eval Engine) >>= f).run engine = (f engine).run engine := rfl

/-! ## The clock -/

/-- A step is taken, and the clock is looked at if that is due. -/
theorem poll_run_eq (engine : Engine) :
    poll.run engine = (if engine.countdown ≤ 1 then lookAtClock else (pure () : Eval Unit)).run
      { engine with countdown := engine.countdown - 1 } := by
  show (if decide (engine.countdown ≤ 1) = true then _ else _ : Eval Unit).run _ = _
  simp only [decide_eq_true_eq]

/-- Without a deadline, looking at the clock does nothing. -/
theorem lookAtClock_run_of_untimed {engine : Engine} (untimed : engine.timeout = none) :
    lookAtClock.run engine = .done (.ok (), { engine with countdown := pollInterval }) := by
  cases engine
  dsimp only at untimed
  subst untimed
  rfl

/-- With one, the time is read. -/
theorem lookAtClock_run_of_timed {engine : Engine} {deadline : Nat}
    (timed : engine.timeout = some deadline) : lookAtClock.run engine =
      (if deadline ≤ engine.clock + engine.delays 0 then (interrupt : Eval Unit)
        else pure ()).run (Engine.readTime { engine with countdown := pollInterval }).2 := by
  cases engine
  dsimp only at timed
  subst timed
  rfl

/-! ## The rules -/

/-- An engine keeps the bounds on what is done in it. -/
structure SameBounds (before after : Engine) : Prop where
  timeout : after.timeout = before.timeout
  stack : after.stack = before.stack
  left : after.left = before.left
  nesting : after.nesting = before.nesting

/-- Engines that have the bounds of one have the same bounds. -/
theorem SameBounds.trans {first second third : Engine} (h : SameBounds first second)
    (h' : SameBounds second third) : SameBounds first third :=
  ⟨h'.timeout.trans h.timeout, h'.stack.trans h.stack, h'.left.trans h.left,
    h'.nesting.trans h.nesting⟩

/-- An engine keeps its bounds and its clock. -/
structure KeepsClock (before after : Engine) : Prop extends SameBounds before after where
  clock : after.clock = before.clock

/-- What has to be shown of a property of computations, where loops are followed for some rounds.
The property may be about engines of one kind only. -/
structure Rules (rounds : Nat) (Fits : Engine → Prop) (P : (α : Type) → Eval α → Prop) : Prop where
  pure {α : Type} (a : α) : P α (Pure.pure a)
  thrown {α : Type} (v : Value) : P α (MonadExcept.throw (.thrown v))
  bind {α β : Type} {x : Eval α} {f : α → Eval β} : P α x → (∀ a, P β (f a)) → P β (x >>= f)
  look {α : Type} {f : Engine → Eval α} : (∀ engine, Fits engine → P α (f engine)) →
    P α (MonadState.get >>= f)
  change {α : Type} {g : Engine → α × Engine} : (∀ engine, KeepsClock engine (g engine).2) →
    P α (modifyGet g)
  lookAtClock : P Unit Eval.lookAtClock
  /-- Where nothing else goes on, the clock is looked at. -/
  idle {α : Type} : P α (Eval.idle rounds)
  catching {α : Type} (ofScript : Bool) {x : Eval α} {handler : Value → Eval α} : P α x →
    (∀ v, P α (handler v)) → P α (Eval.catching ofScript x handler)
  nested {α : Type} {x : Eval α} : P α x → P α (Eval.nested x)

end Eval

/-- Every call and every construction of an evaluator has a property, and the evaluator follows
loops for some rounds. -/
structure Evaluator.Has (rounds : Nat) (P : (α : Type) → Eval α → Prop) (e : Evaluator) :
    Prop where
  call : ∀ callee this args, P Value (e.call callee this args)
  construct : ∀ callee args, P Value (e.construct callee args)
  rounds : e.rounds = rounds

/-- So has every call that a routine makes. -/
theorem Evaluator.Has.serve {rounds : Nat} {P : (α : Type) → Eval α → Prop} {self : Evaluator}
    (hself : self.Has rounds P) (q : CallRequest) : P Value (self.serve q) := by
  unfold Evaluator.serve
  split
  · exact hself.call _ _ _
  · exact hself.construct _ _

namespace Eval.Rules

variable {rounds : Nat} {Fits : Engine → Prop} {P : (α : Type) → Eval α → Prop}
  (rules : Rules rounds Fits P)
include rules

/-- A new error is made and thrown. -/
theorem raise (cls : ErrorClass) (message : String) : P α (Eval.raise cls message) :=
  rules.bind (rules.change fun _ => ⟨⟨rfl, rfl, rfl, rfl⟩, rfl⟩) fun _ => rules.thrown _

/-- A poll looks at the clock if it is time to. -/
theorem poll : P Unit Eval.poll := by
  refine rules.bind (rules.change fun _ => ⟨⟨rfl, rfl, rfl, rfl⟩, rfl⟩) fun due => ?_
  cases due with
  | true => exact rules.lookAtClock
  | false => exact rules.pure ()

section

variable {self : Evaluator} (hself : self.Has rounds P)
include hself

/-- Waiting for the deadline is done by looking at the clock. -/
theorem idleWith : P α (Eval.idle self.rounds) := by
  rw [hself.rounds]
  exact rules.idle

/-! ## Routines -/

/-- A routine has what the calls that it makes have. -/
theorem routine (x : Routine α) : P α (x.eval self) := by
  have carried : ∀ t : Interaction callSignature (Except Value α × Store),
      P α (ExceptT.mk fun engine => Routine.continueWith self engine t) := by
    intro t
    induction t with
    | done ended =>
      have unfolded : (ExceptT.mk fun engine => Routine.continueWith self engine (.done ended) :
          Eval α) = (do
            modifyGet fun engine => ((), engine.withStore ended.2)
            match ended.1 with
            | .ok a => Pure.pure a
            | .error v => MonadExcept.throw (.thrown v) : Eval α) := by
        rcases ended with ⟨v | a, store⟩ <;> rfl
      rw [unfolded]
      refine rules.bind (rules.change fun _ => ⟨⟨rfl, rfl, rfl, rfl⟩, rfl⟩) fun _ => ?_
      cases ended.1 with
      | ok a => exact rules.pure a
      | error v => exact rules.thrown v
    | ask q next ih =>
      -- the call is made in the store of the routine, which goes on with the store that it left
      have unfolded : (ExceptT.mk fun engine => Routine.continueWith self engine (.ask q next) :
          Eval α) = (do
            modifyGet fun engine => ((), engine.withStore q.store)
            let v ← self.serve q
            let after ← MonadState.get
            ExceptT.mk fun engine =>
              Routine.continueWith self engine (next (v, after.toStore)) : Eval α) := by
        funext engine
        show _ = ((self.serve q >>= fun v => _ : Eval α)).run (engine.withStore q.store)
        rw [run_bind]
        show Routine.continueWith self engine (.ask q next) = _
        rw [Routine.continueWith]
        congr 1
        funext ⟨outcome, after⟩
        cases outcome <;> rfl
      rw [unfolded]
      exact rules.bind (rules.change fun _ => ⟨⟨rfl, rfl, rfl, rfl⟩, rfl⟩) fun _ =>
        rules.bind (hself.serve q) fun v => rules.look fun after _ => ih (v, after.toStore)
  have started : x.eval self = (do
      let engine ← MonadState.get
      ExceptT.mk fun now => Routine.continueWith self now (x.run engine.toStore) : Eval α) := rfl
  rw [started]
  exact rules.look fun _ _ => carried _

/-! ## Statements -/

omit hself in
/-- A frame is opened by a change of the engine. -/
theorem openFrame (scope : Scope) (frame : Frame) : P Scope (Eval.openFrame scope frame) :=
  rules.bind (rules.change fun _ => ⟨⟨rfl, rfl, rfl, rfl⟩, rfl⟩) fun _ => rules.pure _

/-- Declarations are made one after the other. -/
theorem declareAll (strict : Bool) (declarations : List Declaration) :
    P Unit (Eval.declareAll self strict declarations) := by
  induction declarations with
  | nil => exact rules.pure ()
  | cons d rest ih =>
    rcases d with ⟨name, _ | body⟩
    · exact rules.bind (rules.routine hself _) fun _ => ih
    · exact rules.bind (rules.change fun _ => ⟨⟨rfl, rfl, rfl, rfl⟩, rfl⟩) fun _ =>
        rules.bind (rules.routine hself _) fun _ => ih

/-- The names of a program are declared before it runs. -/
theorem hoist (strict : Bool) (statements : Statements) :
    P Unit (Eval.hoist self strict statements) :=
  rules.bind (rules.routine hself _) fun _ => rules.declareAll hself _ _

omit hself in
/-- A poll can come after a piece of script. -/
theorem pollAfter {x : Eval Completion} (hx : P Completion x) :
    P Completion (Eval.pollAfter x) := by
  refine rules.bind hx fun ended => ?_
  cases ended with
  | normal => exact rules.bind rules.poll fun _ => rules.pure _
  | returned v => exact rules.pure _

/-- A loop runs its rounds one after the other. -/
theorem countRounds (scope : Scope) (bound : Expr) {round : Eval Completion}
    (hround : P Completion round) (rounds : Nat) :
    P Completion (Eval.countRounds self scope bound round rounds) := by
  induction rounds with
  | zero => exact rules.idleWith hself
  | succ rounds ih =>
    refine rules.bind (rules.routine hself _) fun more => rules.bind rules.poll fun _ => ?_
    cases more with
    | false => exact rules.pure _
    | true =>
      refine rules.bind hround fun ended => ?_
      cases ended with
      | returned v => exact rules.pure _
      | normal =>
        exact rules.bind (rules.routine hself _) fun _ => rules.bind rules.poll fun _ => ih

end

end Eval.Rules

section

variable {rounds : Nat} {Fits : Engine → Prop} {P : (α : Type) → Eval α → Prop} {self : Evaluator}

open Eval (Rules)

mutual

/-- Every statement has the property. -/
theorem Stmt.run_has (rules : Rules rounds Fits P) (hself : self.Has rounds P) (scope : Scope)
    (stmt : Stmt) : P Completion (stmt.run self scope) := by
  have routine : ∀ {γ : Type} (x : Routine γ), P γ (x.eval self) :=
    fun x => rules.routine hself x
  cases stmt with
  | expr e => exact rules.bind (routine _) fun _ => rules.pure _
  | declare name e =>
    exact rules.bind (routine _) fun _ => rules.bind (routine _) fun _ => rules.pure _
  | assign name e =>
    exact rules.bind (routine _) fun _ => rules.bind (routine _) fun _ => rules.pure _
  | delete e => exact rules.bind (routine _) fun _ => rules.pure _
  | raise e => exact rules.bind (routine _) fun _ => rules.thrown _
  | giveBack e => exact rules.bind (routine _) fun _ => rules.pure _
  | define name body => exact rules.pure _
  | tryCatch body handler =>
    exact rules.catching true (rules.pollAfter (runBlock_has rules hself scope body)) fun v =>
      rules.bind (rules.openFrame scope _) fun inner =>
        rules.pollAfter (runBlock_has rules hself inner handler)
  | ifElse condition yes no =>
    refine rules.bind (routine _) fun c => rules.bind rules.poll fun _ => ?_
    split
    · split
      · exact runBlock_has rules hself scope yes
      · exact rules.pollAfter (runBlock_has rules hself scope yes)
    · exact runBlock_has rules hself scope no
  | count bound body =>
    exact rules.bind (routine _) fun _ =>
      rules.countRounds hself scope bound (runBlock_has rules hself scope body) _
  | endless => exact rules.idleWith hself

/-- So has every list of statements. -/
theorem runBlock_has (rules : Rules rounds Fits P) (hself : self.Has rounds P) (scope : Scope)
    (block : List Stmt) : P Completion (runBlock self scope block) := by
  cases block with
  | nil => exact rules.pure _
  | cons stmt rest =>
    refine rules.bind (Stmt.run_has rules hself scope stmt) fun ended => ?_
    cases ended with
    | normal => exact runBlock_has rules hself scope rest
    | returned v => exact rules.pure _

end

end

/-- An evaluator with some levels of stack has that many calls left. -/
theorem Evaluator.left_withStack (rounds levels : Nat) :
    (Evaluator.withStack rounds levels).left = levels := by
  induction levels with
  | zero => rfl
  | succ levels ih => exact congrArg (· + 1) ih

namespace Eval.Rules

variable {rounds : Nat} {Fits : Engine → Prop} {P : (α : Type) → Eval α → Prop}
  (rules : Rules rounds Fits P)
include rules

/-! ## Calls and constructions -/

section

variable {self : Evaluator} (hself : self.Has rounds P)
include hself

/-- So has a whole script. -/
theorem runScript (script : Except SyntaxFault Statements) :
    P Unit (Eval.runScript self script) := by
  cases script with
  | error fault => exact rules.raise _ _
  | ok statements =>
    exact rules.bind rules.poll fun _ => rules.bind (rules.hoist hself _ _) fun _ =>
      rules.bind (runBlock_has rules hself _ statements) fun _ => rules.pure _

/-- A function runs the statements of the body that is kept for it. -/
theorem runFunction (f : Value) (code : Code) (scope : Scope) (this : Value) (args : List Value) :
    P Value (Eval.runFunction self f code scope this args) := by
  cases code with
  | empty => exact rules.pure _
  | arrow => exact rules.pure _
  | gives throws e =>
    refine rules.bind (rules.routine hself _) fun v => ?_
    split
    · exact rules.thrown _
    · exact rules.pure _
  | body name index =>
    refine rules.look fun engine _ => rules.bind (rules.routine hself _) fun receiver =>
      rules.bind (rules.routine hself _) fun listed => rules.bind (rules.openFrame _ _) fun inner =>
        rules.bind (runBlock_has rules hself inner _) fun ended => ?_
    cases ended <;> exact rules.pure _

omit hself in
/-- What runs for a promise is caught. -/
theorem forPromise {x : Eval Unit} (hx : P Unit x) : P Unit (Eval.forPromise x) :=
  rules.catching false hx fun _ => rules.pure _

/-- The constructor of promises runs its function for a promise. -/
theorem constructPromise (args : List Value) : P Value (Eval.constructPromise self args) := by
  refine rules.look fun engine _ => ?_
  split
  · exact rules.bind (rules.routine hself _) fun made => rules.bind (rules.forPromise
      (rules.bind (hself.call _ _ _) fun _ => rules.pure _)) fun _ => rules.pure _
  · exact rules.raise _ _

/-- So do the functions that settle promises. -/
theorem promise? (i : Intrinsic) (this : Value) (args : List Value) :
    ∀ provided ∈ Eval.promise? self i this args, P Value provided := by
  unfold Eval.promise?
  intro provided found
  split at found
  · cases found
    refine rules.bind (rules.routine hself _) fun settled => ?_
    split
    · exact rules.pure _
    · exact rules.bind (rules.routine hself _) fun made =>
        rules.bind (rules.forPromise (rules.routine hself _)) fun _ => rules.pure _
  · cases found
    exact rules.bind (rules.routine hself _) fun made => rules.bind (rules.forPromise
      (rules.bind (hself.call _ _ _) fun _ => rules.routine hself _)) fun _ => rules.pure _
  · cases found

/-- A builtin is a native, runs code for a promise, or is a routine. -/
theorem callBuiltin (native : ∀ n args, P Value (callNative self.left n args)) (i : Intrinsic)
    (this : Value) (args : List Value) : P Value (Eval.callBuiltin self i this args) := by
  unfold Eval.callBuiltin
  split
  · exact native _ _
  · cases found : Eval.promise? self i this args with
    | some provided => exact rules.promise? hself i this args provided found
    | none => exact rules.routine hself _

/-- One step of a call is a builtin, a function of the script, or an error. -/
theorem callStep (native : ∀ n args, P Value (callNative self.left n args)) (callee this : Value)
    (args : List Value) : P Value (Eval.callStep self callee this args) := by
  refine rules.bind rules.poll fun _ => ?_
  split
  · refine rules.look fun engine _ => ?_
    split
    · exact rules.runFunction hself _ _ _ _ _
    · exact rules.callBuiltin hself native _ _ _
    · exact hself.call _ _ _
    · exact rules.raise _ _
  · exact rules.raise _ _

/-- A function of the script is called on the object that it makes. -/
theorem constructWith (f : Value) (code : Code) (scope : Scope) (args : List Value) :
    P Value (Eval.constructWith self f code scope args) := by
  unfold Eval.constructWith
  split
  · exact rules.bind (rules.routine hself _) fun _ => rules.bind (rules.routine hself _) fun _ =>
      rules.bind rules.poll fun _ =>
        rules.bind (rules.runFunction hself _ _ _ _ _) fun _ => rules.pure _
  · exact rules.raise _ _

/-- One step of a construction is a builtin, a function of the script, or an error. -/
theorem constructStep (callee : Value) (args : List Value) :
    P Value (Eval.constructStep self callee args) := by
  refine rules.bind rules.poll fun _ => ?_
  split
  · refine rules.look fun engine _ => ?_
    split
    · exact rules.constructWith hself _ _ _ _
    · exact rules.constructPromise hself _
    · exact rules.routine hself _
    · exact hself.construct _ _
    · exact rules.raise _ _
  · exact rules.raise _ _

end

/-- However much stack is left, calls and constructions have the property, if natives have it that
are called with less. -/
theorem withStack (levels : Nat)
    (natives : ∀ left < levels, ∀ n args, P Value (callNative left n args)) :
    (Evaluator.withStack rounds levels).Has rounds P := by
  induction levels with
  | zero => exact ⟨fun _ _ _ => rules.raise _ _, fun _ _ => rules.raise _ _, rfl⟩
  | succ levels ih =>
    have below := ih fun left less => natives left (Nat.lt_succ_of_lt less)
    refine ⟨rules.callStep below fun n args => ?_, rules.constructStep below, below.rounds⟩
    rw [Evaluator.left_withStack]
    exact natives levels (Nat.lt_succ_self levels) n args

/-! ## Operations -/

end Eval.Rules

/-- Every operation of an interpreter has a property, if natives have it that are called with less
stack than is left. -/
theorem Eval.Rules.operation {i : Interpreter} {Fits : Engine → Prop}
    {P : (α : Type) → Eval α → Prop} (rules : Rules i.rounds Fits P)
    (natives : ∀ engine, Fits engine → ∀ left < engine.left, ∀ n args,
      P Value (callNative left n args))
    {x : Operation i.engine.State i.engine.Value α} (provided : i.engine.Provides α x) : P α x := by
  have onStack : ∀ {γ : Type} {x : Evaluator → Eval γ},
      (∀ self, self.Has i.rounds P → P γ (x self)) →
      P γ (i.onStack x) :=
    fun has => rules.look fun engine fits =>
      has _ (rules.withStack engine.left (natives engine fits))
  cases provided with
  | define n => exact rules.pure _
  | evaluate text =>
    refine rules.look fun engine _ => ?_
    split
    · exact rules.nested (onStack fun self hself => rules.runScript hself _)
    · exact rules.raise _ _
  | throwNew cls message => exact rules.raise _ _
  | global name => exact onStack fun self hself => rules.routine hself _
  | member v name => exact onStack fun self hself => rules.routine hself _
  | toText v => exact onStack fun self hself => rules.routine hself _
  | makeText text => exact rules.pure _
  | construct cls args => exact onStack fun self hself => hself.construct _ _

end DecompilerBridge.Script
