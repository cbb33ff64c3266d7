import DecompilerBridge.Proofs.Bridge.Runs
import DecompilerBridge.Proofs.Script.Layers

/-!
# Runs of the interpreter

Equations for what computations of the interpreter do. A computation goes on as another one, in some
engine (`Eval.run_bind_of_done`, `Eval.poll_run`), and one that calls a native stops there
(`Eval.Calls`). A routine does its calls through an evaluator; `Routine.eval_bind` takes a routine
apart into computations of the engine, so that the same rules go through expressions with calls in
them.
-/

set_option autoImplicit false

namespace DecompilerBridge.Script

variable {α β : Type}

/-! ## Steps towards the next look at the clock -/

/-- The engine after one step towards the next look at the deadline, where there is none. -/
def Engine.tick (engine : Engine) : Engine :=
  { engine with
    countdown := if engine.countdown ≤ 1 then Eval.pollInterval else engine.countdown - 1 }

namespace Eval

variable {engine : Engine}

/-- Without a deadline, a step is all that is taken. -/
theorem poll_run (untimed : engine.timeout = none) :
    poll.run engine = .done (.ok (), engine.tick) := by
  rw [poll_run_eq, Engine.tick]
  split
  · exact lookAtClock_run_of_untimed untimed
  · rfl

/-! ## Calls of a native -/

/-- A computation makes one call of a native, with some arguments and in some state, and ends when
that has ended in some way. -/
def Calls (x : Eval α) (engine : Engine) (n : Native) (args : List Value) (state : Engine)
    (r : NativeEnd Value × Engine) (ended : Except (EngineStop Value) α × Engine) : Prop :=
  ∃ next, x.run engine = .ask (.native n args state) next ∧ next r = .done ended

namespace Calls

variable {n : Native} {args : List Value} {state : Engine} {r : NativeEnd Value × Engine}

/-- A run that is equal to another one calls what that does. -/
theorem of_run_eq {x y : Eval α} {later : Engine} {ended : Except (EngineStop Value) α × Engine}
    (same : x.run engine = y.run later) (calls : Calls y later n args state r ended) :
    Calls x engine n args state r ended := by
  unfold Calls
  rw [same]
  exact calls

/-- A native that gives a value gives it to its caller. -/
theorem callNative (left : Nat) (n : Native) (args : List Value) (v : Value) (after : Engine) :
    Calls (Eval.callNative left n args) engine n args { engine with left := left } (.value v, after)
      (.ok v, { after with left := engine.left }) := ⟨_, rfl, rfl⟩

/-- The call is in the first part of a sequence, and the second calls nothing. -/
theorem bind {x : Eval α} {f : α → Eval β} {a : α} {after : Engine}
    {ended : Except (EngineStop Value) β × Engine}
    (calls : Calls x engine n args state r (.ok a, after))
    (rest : (f a).run after = .done ended) : Calls (x >>= f) engine n args state r ended := by
  obtain ⟨next, asks, given⟩ := calls
  have split := run_bind x f engine
  rw [asks] at split
  refine ⟨_, split, ?_⟩
  rw [given]
  exact rest

/-- The call is inside a file, which is over when the computation ends. -/
theorem nested {x : Eval α} {a : α} {after : Engine}
    (calls : Calls x { engine with nesting := engine.nesting + 1 } n args state r (.ok a, after)) :
    Calls (Eval.nested x) engine n args state r
      (.ok a, { after with nesting := engine.nesting }) := by
  obtain ⟨next, asks, given⟩ := calls
  have split : (Eval.nested x).run engine = Interaction.bind (x.run _) _ := rfl
  rw [asks] at split
  refine ⟨_, split, ?_⟩
  rw [given]
  rfl

end Calls

end Eval

/-! ## Files -/

namespace Eval

variable {natives : Natives Engine Value} {live : Live Engine}

/-- A file that ends with a value is over then. -/
theorem nested_run_of_value {x : Eval α} {engine after : Engine} {a : α}
    (given : x.run { engine with nesting := engine.nesting + 1 } = .done (.ok a, after)) :
    (nested x).run engine = .done (.ok a, { after with nesting := engine.nesting }) := by
  show Interaction.bind (x.run _) _ = _
  rw [given]
  rfl

/-- What is carried out inside a file that ends with it. -/
def closing (nesting : Nat) (ended : Except (Stop Value) α × Live Engine) :
    Interaction hostSignature (Except (Stop Value) α × Live Engine) :=
  match ended with
  | (.ok a, after) => .done (.ok a, ⟨{ after.state with nesting := nesting }, after.parked⟩)
  | (.error (.thrown v), after) =>
    .done (.error (.thrown v), ⟨{ after.state with nesting := nesting }, after.parked⟩)
  | stopped => .done stopped

/-- The bridge carries out a file, and the file is over then. -/
theorem within_nested (x : Eval α) :
    (Bridge.within natives (nested x)).run live =
      ((Bridge.within natives x).run
          ⟨{ live.state with nesting := live.state.nesting + 1 }, live.parked⟩).bind
        (closing live.state.nesting) := by
  refine Bridge.carry_bind ?_ ?_ ?_ ?_ (x.run _) live.parked
  · exact fun _ _ _ => rfl
  · exact fun _ _ _ => rfl
  · intro stop state other
    cases stop with
    | thrown v => exact absurd rfl (other v)
    | hung => rfl
    | crashed => rfl
  · intro stop after other
    cases stop with
    | thrown v => exact absurd rfl (other v)
    | unwound p => rfl
    | hung => rfl
    | crashed => rfl

end Eval

/-! ## Routines -/

namespace Routine

variable {self : Evaluator}

/-- A sequence of routines runs its first part, and its second part only after a value. -/
theorem run_bind (x : Routine α) (f : α → Routine β) (store : Store) :
    (x >>= f).run store = (x.run store).bind fun ended =>
      match ended.1 with
      | .ok a => (f a).run ended.2
      | .error v => .done (.error v, ended.2) := by
  show Interaction.bind (x.run store) _ = _
  congr 1
  funext ⟨outcome, after⟩
  cases outcome <;> rfl

/-- A sequence of routines whose first part makes no call goes on with the second. -/
theorem run_bind_of_done {x : Routine α} {f : α → Routine β} {store after : Store} {a : α}
    (given : x.run store = .done (.ok a, after)) : (x >>= f).run store = (f a).run after := by
  rw [run_bind, given]
  rfl

/-- A routine that looks at the store first. -/
theorem run_get_bind (f : Store → Routine β) (store : Store) :
    ((getThe Store : Routine Store) >>= f).run store = (f store).run store := rfl

/-- A routine that makes no call. -/
theorem eval_run {x : Routine α} {engine : Engine} {store : Store} {a : α}
    (given : x.run engine.toStore = .done (.ok a, store)) :
    (x.eval self).run engine = .done (.ok a, engine.withStore store) := by
  show continueWith self engine (x.run engine.toStore) = _
  rw [given]
  rfl

/-- A routine that only reads. -/
theorem eval_reads {x : Routine α} {engine : Engine} {a : α}
    (given : x.run engine.toStore = .done (.ok a, engine.toStore)) :
    (x.eval self).run engine = .done (.ok a, engine) :=
  eval_run given

/-- A routine brings its store with it. -/
theorem continueWith_withStore (engine : Engine) (store : Store)
    (t : Interaction callSignature (Except Value α × Store)) :
    continueWith self (engine.withStore store) t = continueWith self engine t := by
  rcases t with ⟨v | a, after⟩ | ⟨q, next⟩ <;> rw [continueWith, continueWith] <;> rfl

/-- A program of calls that is followed by `k` is carried out and followed by `l`, if `l` goes on
after a value and after a thrown value as `k` does, and passes on what else comes out of a call. -/
theorem continueWith_bind
    {k : Except Value α × Store → Interaction callSignature (Except Value β × Store)}
    {l : Except (EngineStop Value) α × Engine →
      Interaction (engineSignature Engine Value) (Except (EngineStop Value) β × Engine)}
    (value : ∀ engine a store, continueWith self engine (k (.ok a, store)) =
      l (.ok a, engine.withStore store))
    (thrown : ∀ engine v store, continueWith self engine (k (.error v, store)) =
      l (.error (.thrown v), engine.withStore store))
    (stopped : ∀ stop engine, l (.error stop, engine) = .done (.error stop, engine))
    (t : Interaction callSignature (Except Value α × Store)) (engine : Engine) :
    continueWith self engine (t.bind k) = (continueWith self engine t).bind l := by
  -- over the calls; each may leave another engine
  induction t generalizing engine with
  | done ended =>
    rcases ended with ⟨v | a, store⟩
    · exact thrown engine v store
    · exact value engine a store
  | ask q next ih =>
    rw [Interaction.ask_bind, continueWith, continueWith, Interaction.bind_assoc]
    congr 1
    funext ended
    rcases ended with ⟨stop | v, after⟩
    · exact (stopped stop after).symm
    · exact ih (v, after.toStore) after

/-- A sequence of routines is a sequence of computations. -/
theorem eval_bind (x : Routine α) (f : α → Routine β) :
    (x >>= f).eval self = x.eval self >>= fun a => (f a).eval self := by
  funext engine
  show continueWith self engine ((x >>= f).run engine.toStore) = _
  rw [run_bind]
  refine Eq.trans ?_ (Eval.run_bind (x.eval self) _ engine).symm
  apply continueWith_bind
  · intro engine a store
    exact (continueWith_withStore engine store _).symm
  · exact fun _ _ _ => rfl
  · exact fun _ _ => rfl

/-- A request of a routine is served by the evaluator. -/
theorem eval_request (callee : Value) (this : Option Value) (args : List Value) :
    (request callee this args).eval self =
      this.elim (self.construct callee args) fun v => self.call callee v args := by
  funext engine
  have asked : (request callee this args).run engine.toStore =
      .ask ⟨callee, this, args, engine.toStore⟩ fun r => .done (.ok r.1, r.2) := rfl
  have served : (self.serve ⟨callee, this, args, engine.toStore⟩).run engine =
      (this.elim (self.construct callee args) fun v => self.call callee v args).run engine := by
    cases this <;> rfl
  show continueWith self engine ((request callee this args).run engine.toStore) = _
  rw [asked, continueWith]
  refine Eq.trans ?_ ((Interaction.bind_done _).trans served)
  congr 1
  funext ended
  rcases ended with ⟨stop | v, after⟩
  · rfl
  · rfl

/-- A call that a routine asks for is made by the evaluator. -/
theorem eval_call (f this : Value) (args : List Value) :
    (call f this args).eval self = self.call f this args := eval_request f (some this) args

/-- So is a construction. -/
theorem eval_construct (f : Value) (args : List Value) :
    (construct f args).eval self = self.construct f args := eval_request f none args

end Routine

end DecompilerBridge.Script
